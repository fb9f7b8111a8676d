import Bindwright.Proofs.Emit.Imports
import Mathlib.Data.List.Nodup
import Mathlib.Tactic.ByContra
import Mathlib.Tactic.SplitIfs

/-!
# Which path each name of an import table stands for

A simple name belongs to the item that reserves it, or else to the first importable path that asks
for it, and just these paths are imported (`Owned`). So no two paths share what the body calls them
(`Owned.name_injective`), but the item of an imported module may be called like a path that is
written out (`Owned.member_eq_member_iff`).
-/

namespace Bindwright

namespace ItemPath

def Qualified (cs : List Char) : Prop := [':', ':'] <:+: cs

instance : DecidablePred Qualified := fun _ => inferInstanceAs (Decidable (_ <:+: _))

variable {cs front rest : List Char} {path parent name : String}

theorem qualified_cons_iff {c : Char} :
    Qualified (c :: cs) ↔ (c = ':' ∧ ∃ rest, cs = ':' :: rest) ∨ Qualified cs := by
  rw [Qualified, List.infix_cons_iff]
  refine or_congr_left ⟨?_, ?_⟩
  · rintro ⟨rest, joined⟩
    cases joined
    exact ⟨rfl, rest, rfl⟩
  · rintro ⟨rfl, rest, rfl⟩
    exact ⟨rest, rfl⟩

theorem splitFirst_eq_some (cut : splitFirst cs = (front, some rest)) :
    cs = front ++ ':' :: ':' :: rest ∧ ¬ Qualified (front ++ [':']) := by
  fun_induction splitFirst cs generalizing front with
  | case1 => cases cut
  | case2 after =>
    cases cut
    exact ⟨rfl, by decide⟩
  | case3 c cs other ih =>
    obtain ⟨rfl, found⟩ := Prod.mk.inj cut
    obtain ⟨split, plain⟩ := ih (Prod.ext rfl found)
    refine ⟨congrArg (c :: ·) split, ?_⟩
    rw [List.cons_append, qualified_cons_iff]
    rintro (⟨rfl, more, begins⟩ | inner)
    · refine other (more ++ ':' :: rest) rfl ?_
      rw [split, ← List.singleton_append (l := ':' :: rest), ← List.append_assoc, begins,
        List.cons_append]
    · exact plain inner

theorem splitFirst_eq_none (cut : splitFirst cs = (front, none)) :
    front = cs ∧ ¬ Qualified cs := by
  fun_induction splitFirst cs generalizing front with
  | case1 =>
    cases cut
    exact ⟨rfl, by decide⟩
  | case2 => cases cut
  | case3 c cs other ih =>
    obtain ⟨rfl, found⟩ := Prod.mk.inj cut
    obtain ⟨split, plain⟩ := ih (Prod.ext rfl found)
    refine ⟨congrArg (c :: ·) split, ?_⟩
    rw [qualified_cons_iff]
    rintro (⟨rfl, more, rfl⟩ | inner)
    · exact other more rfl rfl
    · exact plain inner

theorem splitFirst_append (plain : ¬ Qualified (front ++ [':'])) (rest : List Char) :
    splitFirst (front ++ ':' :: ':' :: rest) = (front, some rest) := by
  induction front with
  | nil => rfl
  | cons c front ih =>
    rw [List.cons_append, qualified_cons_iff, not_or] at plain
    rw [List.cons_append, splitFirst, ih plain.2]
    intro after colon begins
    refine plain.1 ⟨colon, ?_⟩
    cases front with
    | nil => exact ⟨[], rfl⟩
    | cons d front =>
      obtain ⟨rfl, _⟩ := List.cons.inj begins
      exact ⟨_, rfl⟩

theorem splitFirst_append_fst (front rest : List Char) :
    (splitFirst (front ++ ':' :: ':' :: rest)).1 = (splitFirst (front ++ [':', ':'])).1 := by
  rcases cut : splitFirst (front ++ [':', ':']) with ⟨first, _ | after⟩
  · exact absurd ⟨front, [], by simp⟩ (splitFirst_eq_none cut).2
  · obtain ⟨split, plain⟩ := splitFirst_eq_some cut
    have longer : front ++ ':' :: ':' :: rest = first ++ ':' :: ':' :: (after ++ rest) := by
      simpa using congrArg (· ++ rest) split
    rw [longer, splitFirst_append plain]

theorem qualified_reverse_iff : Qualified cs.reverse ↔ Qualified cs := by
  change [':', ':'].reverse <:+: cs.reverse ↔ [':', ':'] <:+: cs
  exact List.reverse_infix

theorem reverse_toList_join (parent name : String) :
    (join parent name).toList.reverse =
      name.toList.reverse ++ ':' :: ':' :: parent.toList.reverse := by
  simp [join]

theorem splitLast?_eq_some_iff : splitLast? path = some (parent, name) ↔
    path = join parent name ∧ ¬ Qualified (':' :: name.toList) := by
  have mirrored (cs : List Char) : Qualified (':' :: cs) ↔ Qualified (cs.reverse ++ [':']) := by
    rw [← List.reverse_cons, qualified_reverse_iff]
  constructor
  · intro split
    unfold splitLast? at split
    rcases cut : splitFirst path.toList.reverse with ⟨after, _ | before⟩
    · rw [cut] at split
      cases split
    · rw [cut] at split
      cases split
      obtain ⟨whole, plain⟩ := splitFirst_eq_some cut
      constructor
      · rw [← String.toList_inj, ← List.reverse_inj, whole, reverse_toList_join]
        simp
      · simpa [mirrored] using plain
  · rintro ⟨rfl, plain⟩
    rw [mirrored] at plain
    rw [splitLast?, reverse_toList_join, splitFirst_append plain]
    simp

theorem splitLast?_eq_none_iff : splitLast? path = none ↔ ¬ Qualified path.toList := by
  unfold splitLast?
  rcases cut : splitFirst path.toList.reverse with ⟨after, _ | before⟩
  · have plain := (splitFirst_eq_none cut).2
    rw [qualified_reverse_iff] at plain
    exact iff_of_true rfl plain
  · obtain ⟨whole, _⟩ := splitFirst_eq_some cut
    refine iff_of_false nofun fun plain => plain (qualified_reverse_iff.1 ?_)
    rw [whole]
    exact ⟨after, before, by simp⟩

theorem not_qualified_simpleName (path : String) : ¬ Qualified (simpleName path).toList := by
  unfold simpleName
  cases cut : splitLast? path with
  | none => exact splitLast?_eq_none_iff.1 cut
  | some split =>
    have plain := (splitLast?_eq_some_iff.1 cut).2
    rw [qualified_cons_iff, not_or] at plain
    exact plain.2

end ItemPath

namespace ImportTable

variable {t : ImportTable} {reserved required : List String} {path name : String}

def ofCalls (reserved required : List String) : ImportTable :=
  (reserved.foldl reserve empty).requireAll required

def firstNamed? (name : String) (paths : List String) : Option String :=
  paths.find? fun path => isImportable path && ItemPath.simpleName path = name

theorem firstNamed?_eq_some_iff {paths : List String} :
    firstNamed? name paths = some path ↔
      isImportable path = true ∧ ItemPath.simpleName path = name ∧
        ∃ before after, paths = before ++ path :: after ∧
          ∀ other ∈ before, isImportable other = true → ItemPath.simpleName other ≠ name := by
  rw [firstNamed?, List.find?_eq_some_iff_append, Bool.and_eq_true, decide_eq_true_eq, and_assoc]
  refine and_congr_right fun _ => and_congr_right fun _ => ?_
  refine exists_congr fun before => exists_congr fun after => and_congr_right fun _ => ?_
  exact forall_congr' fun other => forall_congr' fun _ => by cases isImportable other <;> simp

theorem firstNamed?_concat (name : String) (paths : List String) (path : String) :
    firstNamed? name (paths ++ [path]) = (firstNamed? name paths).or
      (if isImportable path = true ∧ ItemPath.simpleName path = name then some path else none) := by
  rw [firstNamed?, firstNamed?, List.find?_append, List.find?_singleton]
  simp only [Bool.and_eq_true, decide_eq_true_eq]

theorem lookup_concat (owners : List (String × String)) (name path other : String) :
    (owners ++ [(name, path)]).lookup other =
      (owners.lookup other).or (if other = name then some path else none) := by
  rw [List.lookup_append]
  by_cases same : other = name
  · simp [same]
  · simp [same, List.lookup_cons, beq_eq_false_iff_ne.2 same]

/-- The table keeps each name for its owner, and imports the paths that own theirs. -/
structure Owned (t : ImportTable) (reserved required : List String) : Prop where
  owner : ∀ name, t.owners.lookup name =
    if name ∈ reserved then some (localPath name) else firstNamed? name required
  imported : ∀ path, path ∈ t.imported ↔
    ItemPath.simpleName path ∉ reserved ∧
      firstNamed? (ItemPath.simpleName path) required = some path
  distinct : t.importedNames.Nodup

namespace Owned

theorem empty : Owned .empty [] [] where
  owner _ := rfl
  imported path := by simp [ImportTable.empty, firstNamed?]
  distinct := List.nodup_nil

theorem reserve (owned : t.Owned reserved []) (name : String) :
    (t.reserve name).Owned (reserved ++ [name]) [] where
  owner other := by
    unfold ImportTable.reserve
    rw [owned.owner]
    by_cases old : name ∈ reserved
    · rw [if_pos old]
      dsimp only
      rw [owned.owner]
      by_cases known : other ∈ reserved
      · rw [if_pos known, if_pos (List.mem_append_left _ known)]
      · have unlike : other ≠ name := fun same => known (same ▸ old)
        rw [if_neg known, if_neg (by simp [known, unlike])]
    · rw [if_neg old]
      dsimp only [firstNamed?, List.find?_nil]
      rw [lookup_concat, owned.owner]
      by_cases known : other ∈ reserved
      · rw [if_pos known, if_pos (List.mem_append_left _ known), Option.some_or]
      · rw [if_neg known]
        by_cases same : other = name
        · rw [if_pos same, if_pos (by simp [same]), same]
          rfl
        · rw [if_neg same, if_neg (by simp [known, same])]
          rfl
  imported path := by
    rw [imported_reserve, owned.imported]
    simp [firstNamed?]
  distinct := by
    rw [importedNames, imported_reserve]
    exact owned.distinct

theorem require_eq (owned : t.Owned reserved required)
    (apart : ∀ name ∈ reserved, localPath name ≠ path) :
    t.require path =
      if isImportable path = true ∧ ItemPath.simpleName path ∉ reserved ∧
          firstNamed? (ItemPath.simpleName path) required = none then
        ⟨t.imported ++ [path], t.owners ++ [(ItemPath.simpleName path, path)]⟩
      else t := by
  have listed_iff := owned.imported path
  unfold ImportTable.require
  dsimp only
  rw [owned.owner]
  by_cases importable : isImportable path = true
  · by_cases known : ItemPath.simpleName path ∈ reserved
    · simp [importable, known, apart _ known]
    · cases first : firstNamed? (ItemPath.simpleName path) required with
      | none =>
        have absent : path ∉ t.imported := fun listed => by
          rw [listed_iff, first] at listed
          cases listed.2
        simp [importable, known, absent]
      | some owner =>
        by_cases same : owner = path
        · have listed : path ∈ t.imported := listed_iff.2 ⟨known, same ▸ first⟩
          simp [listed]
        · simp [known, same]
  · simp [importable]

theorem take (owned : t.Owned reserved required) (importable : isImportable path = true)
    (free : ItemPath.simpleName path ∉ reserved)
    (unasked : firstNamed? (ItemPath.simpleName path) required = none) :
    Owned ⟨t.imported ++ [path], t.owners ++ [(ItemPath.simpleName path, path)]⟩ reserved
      (required ++ [path]) := by
  refine ⟨fun name => ?_, fun path' => ?_, ?_⟩
  · rw [lookup_concat, owned.owner, firstNamed?_concat]
    by_cases known : name ∈ reserved
    · rw [if_pos known, if_pos known, Option.some_or]
    · rw [if_neg known, if_neg known]
      simp [importable, eq_comm]
  · rw [List.mem_append, List.mem_singleton, owned.imported, firstNamed?_concat]
    by_cases last : path' = path
    · subst last
      simp [importable, free, unasked]
    · by_cases rival : ItemPath.simpleName path = ItemPath.simpleName path'
      · simp [← rival, importable, unasked, last, Ne.symm last]
      · simp [rival, last]
  · rw [importedNames, List.map_append, List.map_singleton]
    refine List.nodup_append.2 ⟨owned.distinct, List.pairwise_singleton .., ?_⟩
    intro name listed _ last
    rw [List.mem_singleton.1 last]
    rintro rfl
    obtain ⟨rival, listed, same⟩ := List.mem_map.1 listed
    have first := ((owned.imported rival).1 listed).2
    rw [same, unasked] at first
    cases first

theorem pass (owned : t.Owned reserved required)
    (passed : ¬ (isImportable path = true ∧ ItemPath.simpleName path ∉ reserved ∧
      firstNamed? (ItemPath.simpleName path) required = none)) :
    t.Owned reserved (required ++ [path]) := by
  have first (name : String) (known : name ∉ reserved) :
      firstNamed? name (required ++ [path]) = firstNamed? name required := by
    rw [firstNamed?_concat]
    split
    · rename_i asks
      obtain ⟨importable, rfl⟩ := asks
      cases taken : firstNamed? (ItemPath.simpleName path) required with
      | none => exact absurd ⟨importable, known, taken⟩ passed
      | some owner => rfl
    · exact Option.or_none
  refine ⟨fun name => ?_, fun path' => ?_, owned.distinct⟩
  · rw [owned.owner]
    by_cases known : name ∈ reserved
    · rw [if_pos known, if_pos known]
    · rw [if_neg known, if_neg known, first name known]
  · rw [owned.imported]
    exact and_congr_right fun free => by rw [first _ free]

theorem require (owned : t.Owned reserved required)
    (apart : ∀ name ∈ reserved, localPath name ≠ path) :
    (t.require path).Owned reserved (required ++ [path]) := by
  rw [owned.require_eq apart]
  split
  · rename_i fresh
    exact owned.take fresh.1 fresh.2.1 fresh.2.2
  · rename_i passed
    exact owned.pass passed

theorem reserveAll (owned : t.Owned reserved []) (names : List String) :
    (names.foldl ImportTable.reserve t).Owned (reserved ++ names) [] := by
  induction names generalizing t reserved with
  | nil => simpa using owned
  | cons name names ih => simpa using ih (owned.reserve name)

theorem requireAll (owned : t.Owned reserved required) (paths : List String)
    (apart : ∀ name ∈ reserved, localPath name ∉ paths) :
    (t.requireAll paths).Owned reserved (required ++ paths) := by
  unfold ImportTable.requireAll
  induction paths generalizing t required with
  | nil => simpa using owned
  | cons path paths ih =>
    have next := owned.require fun name known same => apart name known (same ▸ List.mem_cons_self)
    have later := ih next fun name known listed => apart name known (List.mem_cons_of_mem _ listed)
    simpa using later

theorem ofCalls (reserved required : List String)
    (apart : ∀ name ∈ reserved, localPath name ∉ required) :
    (ofCalls reserved required).Owned reserved required := by
  simpa [ImportTable.ofCalls] using
    (empty.reserveAll reserved).requireAll required (by simpa using apart)

end Owned

/-! ## What the body calls paths and items -/

theorem name_eq (t : ImportTable) (path : String) :
    t.name path = if path ∈ t.imported then ItemPath.simpleName path else path := by
  simp [name]

theorem qualified_of_isImportable (importable : isImportable path = true) :
    ItemPath.Qualified path.toList := by
  by_contra plain
  rw [isImportable, ItemPath.splitLast?_eq_none_iff.2 plain] at importable
  cases importable

namespace Owned

theorem isImportable_of_mem (owned : t.Owned reserved required) (listed : path ∈ t.imported) :
    isImportable path = true :=
  (firstNamed?_eq_some_iff.1 ((owned.imported path).1 listed).2).1

theorem eq_of_simpleName_eq (owned : t.Owned reserved required) {other : String}
    (listed : path ∈ t.imported) (listed' : other ∈ t.imported)
    (same : ItemPath.simpleName path = ItemPath.simpleName other) : path = other :=
  List.inj_on_of_nodup_map owned.distinct listed listed' same

theorem name_injective (owned : t.Owned reserved required) {other : String}
    (qualified : ItemPath.Qualified path.toList) (qualified' : ItemPath.Qualified other.toList)
    (same : t.name path = t.name other) : path = other := by
  rw [name_eq, name_eq] at same
  split_ifs at same with listed listed' listed'
  · exact owned.eq_of_simpleName_eq listed listed' same
  · rw [← same] at qualified'
    exact absurd qualified' (ItemPath.not_qualified_simpleName path)
  · rw [same] at qualified
    exact absurd qualified (ItemPath.not_qualified_simpleName other)
  · exact same

end Owned

/-- An item of an imported module is called like the path `other`. -/
def Shadows (t : ImportTable) (path other : String) : Prop :=
  ∃ module item, ItemPath.splitLast? path = some (module, item) ∧ module ∈ t.imported ∧
    other = ItemPath.join (ItemPath.simpleName module) item

section Members

variable {other module module' item item' : String}

theorem member_eq (split : ItemPath.splitLast? path = some (module, item)) :
    t.member path =
      if module ∈ t.imported then ItemPath.join (ItemPath.simpleName module) item else path := by
  rw [member, split]
  by_cases listed : module ∈ t.imported
  · simp [listed, name_eq]
  · simp [listed]

theorem splitLast?_join (split : ItemPath.splitLast? path = some (module, item)) (parent : String) :
    ItemPath.splitLast? (ItemPath.join parent item) = some (parent, item) :=
  ItemPath.splitLast?_eq_some_iff.2 ⟨rfl, (ItemPath.splitLast?_eq_some_iff.1 split).2⟩

theorem join_inj {parent parent' : String} (split : ItemPath.splitLast? path = some (module, item))
    (split' : ItemPath.splitLast? other = some (module', item'))
    (same : ItemPath.join parent item = ItemPath.join parent' item') :
    parent = parent' ∧ item = item' := by
  have again := splitLast?_join split parent
  rw [same, splitLast?_join split'] at again
  exact ⟨(Prod.mk.inj (Option.some.inj again)).1.symm, (Prod.mk.inj (Option.some.inj again)).2.symm⟩

theorem shadows_split_iff (split : ItemPath.splitLast? path = some (module, item)) :
    t.Shadows path other ↔
      module ∈ t.imported ∧ other = ItemPath.join (ItemPath.simpleName module) item := by
  constructor
  · rintro ⟨_, _, split', shadows⟩
    rw [split] at split'
    cases split'
    exact shadows
  · exact fun shadows => ⟨module, item, split, shadows⟩

theorem Owned.not_mem_of_shadows (owned : t.Owned reserved required)
    (shadows : t.Shadows path other) (split : ItemPath.splitLast? other = some (module, item)) :
    module ∉ t.imported := by
  obtain ⟨parent, _, split', _, rfl⟩ := shadows
  rw [splitLast?_join split'] at split
  cases split
  exact fun listed => ItemPath.not_qualified_simpleName parent
    (qualified_of_isImportable (owned.isImportable_of_mem listed))

theorem Owned.member_eq_member_iff (owned : t.Owned reserved required)
    (qualified : ItemPath.Qualified path.toList) (qualified' : ItemPath.Qualified other.toList) :
    t.member path = t.member other ↔
      path = other ∨ t.Shadows path other ∨ t.Shadows other path := by
  have cut {path : String} (qualified : ItemPath.Qualified path.toList) :
      ∃ module item, ItemPath.splitLast? path = some (module, item) := by
    cases split : ItemPath.splitLast? path with
    | none => exact absurd qualified (ItemPath.splitLast?_eq_none_iff.1 split)
    | some parts => exact ⟨parts.1, parts.2, rfl⟩
  obtain ⟨module, item, split⟩ := cut qualified
  obtain ⟨module', item', split'⟩ := cut qualified'
  have whole := (ItemPath.splitLast?_eq_some_iff.1 split).1
  have whole' := (ItemPath.splitLast?_eq_some_iff.1 split').1
  have alike (same : path = other) : module = module' ∧ item = item' := by
    rw [same, split'] at split
    cases split
    exact ⟨rfl, rfl⟩
  rw [member_eq split, member_eq split', shadows_split_iff split, shadows_split_iff split']
  -- An item is shortened if its module is imported, so there are four cases.
  by_cases listed : module ∈ t.imported <;> by_cases listed' : module' ∈ t.imported
  · rw [if_pos listed, if_pos listed']
    constructor
    · intro same
      obtain ⟨names, rfl⟩ := join_inj split split' same
      rw [whole, whole', owned.eq_of_simpleName_eq listed listed' names]
      exact .inl rfl
    · rintro (same | shadows | shadows)
      · obtain ⟨rfl, rfl⟩ := alike same
        rfl
      · exact absurd listed' (owned.not_mem_of_shadows ((shadows_split_iff split).2 shadows) split')
      · exact absurd listed (owned.not_mem_of_shadows ((shadows_split_iff split').2 shadows) split)
  · have apart : path ≠ other := fun same => listed' ((alike same).1 ▸ listed)
    rw [if_pos listed, if_neg listed']
    simp [listed, listed', apart, eq_comm]
  · have apart : path ≠ other := fun same => listed ((alike same).1 ▸ listed')
    rw [if_neg listed, if_pos listed']
    simp [listed, listed', apart]
  · rw [if_neg listed, if_neg listed']
    simp [listed, listed']

end Members

end ImportTable
end Bindwright
