import Bindwright.Emit.Index
import Bindwright.Proofs.Emit.Fields
import Bindwright.Proofs.Naming.Legality
import Bindwright.Proofs.Run.Outputs

namespace Bindwright

open Naming Declaration Text Traversal

namespace Declaration

theorem isName_of_takeName? {cs name rest : List Char} (taken : takeName? cs = some (name, rest)) :
    isName name = true := by
  cases cs with
  | nil => cases taken
  | cons c cs =>
    rw [takeName?] at taken
    split at taken
    · rename_i first
      cases taken
      simp only [isName, first, Bool.true_and, List.all_eq_true]
      exact fun d member => List.mem_takeWhile_imp member
    · cases taken

theorem isName_of_qualifiedNames (cs : List Char) :
    ∀ names ∈ qualifiedNames cs, isName names.1 = true := by
  fun_induction qualifiedNames cs with
  | case1 => exact List.forall_mem_nil _
  | case2 c cs names rest taken ih =>
    refine List.forall_mem_cons.2 ⟨?_, ih⟩
    obtain ⟨⟨owner, after⟩, name, taken⟩ := Option.bind_eq_some_iff.1 taken
    dsimp only at taken
    split at taken
    · obtain ⟨rest', -, same⟩ := Option.bind_eq_some_iff.1 taken
      cases same
      exact isName_of_takeName? name
    · cases taken
  | case3 c cs passed ih => exact ih

end Declaration

theorem HeaderConstant.isName_of_mem_owners {c : HeaderConstant} {owner : String}
    (member : owner ∈ c.owners) : isName owner.toList = true := by
  obtain ⟨s, -, found⟩ := List.mem_flatMap.1 member
  obtain ⟨⟨name, constant⟩, quoted, same⟩ := List.mem_filterMap.1 found
  dsimp only at same
  split at same
  · cases same
    rw [String.toList_ofList]
    exact isName_of_qualifiedNames _ _ quoted
  · cases same

theorem HeaderGroup.wordy_native {constants : List HeaderConstant} {g : HeaderGroup}
    (group : g ∈ headerGroups constants) : Wordy g.native.toList := by
  obtain ⟨c, -, home⟩ := exists_home?_of_mem group
  obtain ⟨-, owners, -, belongs⟩ := home?_eq_some_iff.1 home
  have owner : Wordy g.owner.toList :=
    (isName_iff.1 (HeaderConstant.isName_of_mem_owners (owners ▸ List.mem_singleton_self _))).1
  unfold HeaderConstant.BelongsTo at belongs
  split at belongs
  · obtain ⟨-, stem, spelled, native⟩ := belongs
    rw [spelled, String.toList_append] at owner
    rw [native, String.toList_append]
    exact (owner.of_subset (List.subset_append_left _ _)).append (by decide +kernel)
  · rw [belongs.1]
    exact owner

theorem nodup_of_firstClash?_eq_none {variantOf : HeaderConstant → String}
    {seen : List (String × HeaderConstant)} {constants : List HeaderConstant}
    (none : firstClash? variantOf seen constants = none) :
    (constants.map variantOf).Nodup ∧ ∀ c ∈ constants, seen.lookup (variantOf c) = .none := by
  induction constants generalizing seen with
  | nil => exact ⟨List.nodup_nil, List.forall_mem_nil _⟩
  | cons c cs ih =>
    unfold firstClash? at none
    split at none
    · cases none
    · rename_i new
      obtain ⟨distinct, later⟩ := ih none
      have apart : ∀ c' ∈ cs, variantOf c' ≠ variantOf c ∧ seen.lookup (variantOf c') = .none := by
        intro c' member
        have missing := later c' member
        rw [List.lookup_cons] at missing
        split at missing
        · cases missing
        · rename_i unlike
          exact ⟨by simpa using unlike, missing⟩
      refine ⟨List.nodup_cons.2 ⟨fun member => ?_, distinct⟩,
        List.forall_mem_cons.2 ⟨new, fun c' member => (apart c' member).2⟩⟩
      obtain ⟨c', member, same⟩ := List.mem_map.1 member
      exact (apart c' member).1 same

namespace Files

theorem splitExtension_source (stem : String) :
    splitExtension (stem ++ ".rs") =
      if stem = "" then (".rs", none) else (stem, some "rs") := by
  have split : splitLast? '.' (stem ++ ".rs").toList = some (stem.toList, "rs".toList) := by
    rw [String.toList_append]
    exact splitLast?_append (by decide) stem.toList
  unfold splitExtension
  rw [split]
  cases chars : stem.toList with
  | nil =>
    rw [String.toList_eq_nil_iff.1 chars]
    rfl
  | cons c cs =>
    have inhabited : stem ≠ "" := by
      rintro rfl
      cases chars
    have spelled : String.ofList (c :: cs) = stem := by rw [← chars, String.ofList_toList]
    rw [if_neg inhabited, ← spelled]
    rfl

theorem fileStem?_join {stem : String} (slash : '/' ∉ stem.toList) (directory : String) :
    fileStem? (join directory (stem ++ ".rs")) = some (if stem = "" then ".rs" else stem) := by
  have plain := Generation.plainName_source slash
  have name : fileName? (join directory (stem ++ ".rs")) = some (stem ++ ".rs") := by
    rw [fileName?, components_join plain.onlyNames, components_of_plain plain,
      List.getLast?_concat]
  rw [fileStem?, name, Option.map_some, splitExtension_source]
  split <;> rfl

end Files

structure Bindings.NamedInC (b : Bindings) : Prop where
  types : ∀ entry ∈ b.types, isName entry.2.name.toList = true
  constants : ∀ c ∈ b.constants, isName c.name.toList = true
  members : ∀ entry ∈ b.types, ∀ members, entry.2.declaredMembers = .ok members →
    ∀ m ∈ members, isName m.name.toList = true

theorem Bindings.namedInC_iff {b : Bindings} :
    b.NamedInC ↔ (∀ entry ∈ b.types, isName entry.2.name.toList = true ∧
      ∀ m ∈ entry.2.declaredMembers.toOption.getD [], isName m.name.toList = true) ∧
      ∀ c ∈ b.constants, isName c.name.toList = true := by
  constructor
  · rintro ⟨types, constants, members⟩
    refine ⟨fun entry listed => ⟨types entry listed, ?_⟩, constants⟩
    cases declared : entry.2.declaredMembers with
    | error failure => exact List.forall_mem_nil _
    | ok declaration => exact members entry listed declaration declared
  · rintro ⟨types, constants⟩
    refine ⟨fun entry listed => (types entry listed).1, constants, ?_⟩
    intro entry listed members declared
    have each := (types entry listed).2
    rw [declared] at each
    exact each

instance (b : Bindings) : Decidable b.NamedInC := decidable_of_iff _ Bindings.namedInC_iff.symm

theorem Bindings.exists_of_mem_typesIn {b : Bindings} {module : String} {t : NativeType}
    (member : t ∈ b.typesIn module) : ∃ entry ∈ b.types, entry.2 = t := by
  obtain ⟨entry, inside, same⟩ := List.mem_map.1 member
  exact ⟨entry, (List.mem_filter.1 inside).1, same⟩

def Request.Sound (b : Bindings) (q : Request) : Prop :=
  match q.product with
  | .wrapper => ∃ entry ∈ b.types, q.destination.name = structureName entry.2.name
  | .constants group members _ =>
    (∃ native, Wordy native.toList ∧ q.destination.name = group.typeName native) ∧
      members ⊆ b.constants ∧ (variantNames group q.destination.name members).Nodup

namespace Population

variable {b : Bindings} {p : Plan} {q : Request}

theorem sound_of_mem_requests (pending : q ∈ (populate b p).1.requests) : q.Sound b := by
  suffices founded : (populate b p).1.Founded (·.Sound b) from
    founded q.native (.pending q) ((consistent_populate b p).mem_requests_iff.1 pending)
  refine founded_populate ?_ ?_
  · intro q wrapped
    obtain ⟨d, -, structures⟩ := List.mem_flatMap.1 wrapped
    obtain ⟨t, core, rfl⟩ := List.mem_map.1 structures
    obtain ⟨entry, inside, rfl⟩ := Bindings.exists_of_mem_typesIn (List.mem_filter.1 core).1
    exact ⟨entry, inside, rfl⟩
  · intro module _ g group clashless
    refine ⟨⟨g.native, HeaderGroup.wordy_native group, rfl⟩, ?_,
      (nodup_of_firstClash?_eq_none clashless).1⟩
    rw [(mem_headerGroups_iff.1 group).1]
    exact List.filter_subset_self _

theorem wordy_name (named : b.NamedInC) (pending : q ∈ (populate b p).1.requests) :
    Wordy q.destination.name.toList := by
  have sound := sound_of_mem_requests pending
  unfold Request.Sound at sound
  split at sound
  · obtain ⟨entry, inside, name⟩ := sound
    rw [name]
    exact wordy_typeName (isName_iff.1 (named.types entry inside)).1 .values
  · obtain ⟨⟨native, wordy, name⟩, -⟩ := sound
    rw [name]
    exact wordy_typeName wordy _

theorem isLegal_stem_iff (named : b.NamedInC) (pending : q ∈ (populate b p).1.requests)
    (out : String) :
    let name := q.destination.name
    ∃ stem, Files.fileStem? (Generation.outputPath out q.destination) = some stem ∧
      (IsLegal stem ↔ name ≠ "" ∧ name ≠ "_" ∧ ¬BeginsWithDigit name ∧
        snakeCase name ∉ Naming.keywords ∧ snakeCase name ∉ pathKeywords) := by
  intro name
  have wordy : Wordy name.toList := wordy_name named pending
  have wordy' := wordy_snakeCase wordy
  obtain ⟨empty, underscore, digit⟩ := snakeCase_begins wordy
  have slash : '/' ∉ (snakeCase name).toList := fun member =>
    (starts_of_continuesName '/' (wordy' _ member)).2.2.1 rfl
  refine ⟨_, Files.fileStem?_join slash _, ?_⟩
  split
  · rename_i same
    exact iff_of_false (by decide +kernel) fun legal => legal.1 (empty.1 same)
  · rw [isLegal_iff wordy', isPlain_iff wordy', Ne, Ne, empty, underscore, digit]

/-- Which of the names are legal that a request makes of names in C. -/
theorem identifiers_legal_iff (b : Bindings) (p : Plan) (out date : String) (named : b.NamedInC)
    {q : Request} (pending : q ∈ (populate b p).1.requests) :
    let name := q.destination.name
    (IsLegal name ↔ name ≠ "" ∧ name ≠ "_" ∧ ¬BeginsWithDigit name ∧ name ∉ Naming.keywords ∧
      name ∉ pathKeywords) ∧
    (∃ stem, Files.fileStem? (Generation.outputPath out q.destination) = some stem ∧
      (IsLegal stem ↔ name ≠ "" ∧ name ≠ "_" ∧ ¬BeginsWithDigit name ∧
        snakeCase name ∉ Naming.keywords ∧ snakeCase name ∉ pathKeywords)) ∧
    (∀ group members valueType, q.product = .constants group members valueType →
      (variantNames group name members).Nodup ∧ ∀ variant ∈ variantNames group name members,
        (IsLegal variant ↔ variant ≠ "" ∧ ¬BeginsWithDigit variant ∧ variant ≠ "Self")) ∧
    ∀ f, Rendering.structureFile b (populate b p).1 date q = .ok f → ∀ c ∈ f.members,
      (IsLegal c.field ↔ c.member.name ≠ "_") ∧
        IsLegal (functionAccessorName c.member.name) := by
  intro name
  have wordy : Wordy name.toList := wordy_name named pending
  refine ⟨?_, isLegal_stem_iff named pending out, ?_, ?_⟩
  · rw [isLegal_iff wordy, isPlain_iff wordy]
  · intro group members valueType product
    -- Constants are queued only after their variants were compared.
    have sound := sound_of_mem_requests pending
    simp only [Request.Sound, product] at sound
    obtain ⟨-, inside, distinct⟩ := sound
    refine ⟨distinct, fun variant listed => isLegal_iff_of_capitalized ?_⟩
    obtain ⟨c, member, rfl⟩ := List.mem_map.1 listed
    exact capitalized_variantName (isName_iff.1 (named.constants c (inside member))).1 group name
  · intro f file c member
    obtain ⟨members, bound, declared, inside, accepted⟩ :=
      Rendering.classifyMember_of_mem_members file member
    obtain ⟨native, -⟩ := Rendering.structureFile_ok file
    obtain ⟨entry, listed, own⟩ : ∃ entry ∈ b.types, entry.2 = f.native := by
      unfold Rendering.nativeType at native
      split at native
      · rename_i t found
        cases native
        exact Bindings.exists_of_mem_typesIn (List.mem_of_find?_eq_some found)
      · cases native
    rw [← own] at declared
    have named' := named.members entry listed members declared c.member inside
    rw [(NativeType.classifyMember_ok accepted).2.1]
    exact ⟨isLegal_memberFieldName_iff named', isLegal_functionAccessorName named'⟩

def keywordLayer : Bindings :=
  { Registry.headerOf [Registry.ownedConstant "VkFormat" "VK_FORMAT_2D_IMAGE"] with
    types := [("bindings", Rendering.pairOf "width" "type")]
    separator := '_' }

theorem identifiers_legal_iff_keywordLayer :
    let r := (populate keywordLayer wrapAll).1
    keywordLayer.NamedInC ∧ r.requests.map (·.destination.name) = ["Format", "Sample"] ∧
      ∀ q ∈ r.requests, IsLegal q.destination.name ∧
        (∃ stem, Files.fileStem? (Generation.outputPath "out" q.destination) = some stem ∧
          IsLegal stem) ∧
        (∀ group members valueType, q.product = .constants group members valueType →
          (variantNames group q.destination.name members).Nodup) ∧
        ∀ f, Rendering.structureFile keywordLayer r "" q = .ok f → ∀ c ∈ f.members,
          IsLegal (functionAccessorName c.member.name) := by
  intro r
  have named : keywordLayer.NamedInC := by decide +kernel
  have names : r.requests.map (·.destination.name) = ["Format", "Sample"] := by decide +kernel
  refine ⟨named, names, fun q pending => ?_⟩
  obtain ⟨own, ⟨stem, file, stems⟩, variants, members⟩ :=
    identifiers_legal_iff keywordLayer wrapAll "out" "" named pending
  have listed : q.destination.name ∈ ["Format", "Sample"] := names ▸ List.mem_map_of_mem pending
  have plain : ∀ name ∈ ["Format", "Sample"], name ≠ "" ∧ name ≠ "_" ∧ ¬BeginsWithDigit name ∧
      (name ∉ Naming.keywords ∧ name ∉ pathKeywords) ∧
      snakeCase name ∉ Naming.keywords ∧ snakeCase name ∉ pathKeywords := by decide +kernel
  obtain ⟨inhabited, other, digit, word, word'⟩ := plain _ listed
  exact ⟨own.2 ⟨inhabited, other, digit, word⟩, ⟨stem, file, stems.2 ⟨inhabited, other, digit, word'⟩⟩,
    fun group constants valueType product => (variants group constants valueType product).1,
    fun f file c member => (members f file c member).2⟩

/-- A keyword is escaped where it names a field, but not where it names a file. -/
theorem file_named_by_keyword :
    let b := emptyStructures ["VkType"]
    let requests := (populate b wrapAll).1.requests
    let path := "out/vk/type.rs"
    b.NamedInC ∧ requests.map (·.destination.name) = ["Type"] ∧
      requests.map (Generation.outputPath "out" ·.destination) = [path] ∧
      Files.fileStem? path = some "type" ∧ ¬IsLegal "type" ∧
      Index.entry ⟨"VkType", "crate::vk", ["Type", "TypeNative"], path⟩ =
        "\n#[path = \"out/vk/type.rs\"]\nmod type;\n" ++
          "pub use self::type::\x7bType, TypeNative\x7d;\n" := by
  decide +kernel

end Population
end Bindwright
