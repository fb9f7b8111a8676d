import Bindwright.Proofs.Emit.Resolution
import Bindwright.Proofs.Member.Classification
import Mathlib.Data.List.Induction

namespace Bindwright

open Text Traversal

/-- The accessor takes one segment and returns something, and the last separator of its name stands
between the member and a kind. Its binding has its own data. -/
structure Accessor.BindsTo (a : Accessor) (separator : Char) (member : String)
    (b : MemberBinding) : Prop where
  parameter : a.parameters = ["Segment"] ∨
    ∃ module, a.parameters = [ItemPath.join module "Segment"]
  returns : a.returnType = some b.rawType
  named : a.name = accessorName member separator b.kind.word
  last : separator ∉ b.kind.word.toList
  nonempty : member ≠ ""
  accessor : b.accessor = a.name
  location : b.location = a.location

def Accessor.Apart (separator : Char) (a a' : Accessor) : Prop :=
  ∀ member b b', a.BindsTo separator member b → ¬ a'.BindsTo separator member b'

/-- The entries are those of the accessors that count, in their order. -/
inductive Accessor.Listed (separator : Char) : List Accessor → List (String × MemberBinding) → Prop where
  | nil : Listed separator [] []
  | pass {a : Accessor} {accessors : List Accessor} {entries : List (String × MemberBinding)}
    (none : ∀ member b, ¬ a.BindsTo separator member b) (rest : Listed separator accessors entries) :
    Listed separator (a :: accessors) entries
  | take {a : Accessor} {accessors : List Accessor} {entries : List (String × MemberBinding)}
    {member : String} {b : MemberBinding} (binds : a.BindsTo separator member b)
    (rest : Listed separator accessors entries) :
    Listed separator (a :: accessors) ((member, b) :: entries)

variable {separator : Char} {member : String} {b : MemberBinding}

theorem ItemPath.simpleName_eq_iff {path name : String} (plain : ':' ∉ name.toList) :
    simpleName path = name ↔ path = name ∨ ∃ parent, path = join parent name := by
  have unqualified : ¬ Qualified (':' :: name.toList) := by
    rw [qualified_cons_iff]
    rintro (⟨-, rest, begins⟩ | inner)
    · exact plain (begins ▸ List.mem_cons_self)
    · exact plain (inner.subset List.mem_cons_self)
  have not_joined (parent : String) : join parent name ≠ name := fun same =>
    plain (same ▸ by simp [join])
  unfold simpleName
  cases cut : splitLast? path with
  | none =>
    refine ⟨.inl, ?_⟩
    rintro (same | ⟨parent, joined⟩)
    · exact same
    · rw [splitLast?_eq_some_iff.2 ⟨joined, unqualified⟩] at cut
      cases cut
  | some split =>
    obtain ⟨parent, last⟩ := split
    obtain ⟨joined, -⟩ := splitLast?_eq_some_iff.1 cut
    constructor
    · rintro rfl
      exact .inr ⟨parent, joined⟩
    · rintro (same | ⟨parent', joined'⟩)
      · exact absurd (by simp [← same, joined, join]) plain
      · rw [splitLast?_eq_some_iff.2 ⟨joined', unqualified⟩] at cut
        cases cut
        rfl

theorem Text.not_mem_of_splitFirst? {c : Char} {cs before after : List Char}
    (split : splitFirst? c cs = some (before, after)) : c ∉ before := by
  induction cs generalizing before with
  | nil => cases split
  | cons d ds ih =>
    rw [splitFirst?] at split
    split_ifs at split with here
    · cases split
      exact List.not_mem_nil
    · obtain ⟨⟨front, rest⟩, inner, same⟩ := Option.map_eq_some_iff.1 split
      cases same
      simp [ih inner, Ne.symm here]

theorem Text.splitLast?_eq_some_iff {c : Char} {cs before after : List Char} :
    splitLast? c cs = some (before, after) ↔ cs = before ++ c :: after ∧ c ∉ after := by
  constructor
  · intro split
    refine ⟨eq_append_of_splitLast? split, ?_⟩
    obtain ⟨⟨back, front⟩, mirrored, same⟩ := Option.map_eq_some_iff.1 split
    cases same
    simpa using not_mem_of_splitFirst? mirrored
  · rintro ⟨rfl, absent⟩
    exact splitLast?_append absent before

theorem AccessorKind.ofWord?_eq_some_iff {word : List Char} {kind : AccessorKind} :
    ofWord? word = some kind ↔ word = kind.word.toList := by
  refine ⟨eq_word, ?_⟩
  rintro rfl
  cases kind <;> decide

theorem splitAccessorName?_eq_some_iff {name : String} {kind : AccessorKind} :
    splitAccessorName? name separator = some (member, kind) ↔
      name = accessorName member separator kind.word ∧ separator ∉ kind.word.toList ∧
        member ≠ "" := by
  constructor
  · intro split
    have named := eq_accessorName split
    simp only [splitAccessorName?, bind, Option.bind_eq_some_iff] at split
    obtain ⟨⟨front, word⟩, cut, split⟩ := split
    dsimp only at split
    split_ifs at split with empty
    obtain ⟨kind', read, same⟩ := Option.bind_eq_some_iff.1 split
    cases same
    refine ⟨named, ?_, ?_⟩
    · rw [← AccessorKind.eq_word read]
      exact (Text.splitLast?_eq_some_iff.1 cut).2
    · simpa [← String.toList_inj] using empty
  · rintro ⟨rfl, absent, nonempty⟩
    have cut : Text.splitLast? separator (accessorName member separator kind.word).toList =
        some (member.toList, kind.word.toList) :=
      Text.splitLast?_eq_some_iff.2 ⟨by simp [accessorName], absent⟩
    simp [splitAccessorName?, cut, nonempty, AccessorKind.ofWord?_eq_some_iff.2 rfl]

theorem Accessor.takesSegment_iff {a : Accessor} :
    a.takesSegment = true ↔
      a.parameters = ["Segment"] ∨ ∃ module, a.parameters = [ItemPath.join module "Segment"] := by
  unfold takesSegment
  rcases a.parameters with _ | ⟨type, _ | ⟨other, rest⟩⟩
  · simp
  · have plain : ':' ∉ "Segment".toList := by decide
    simp [ItemPath.simpleName_eq_iff plain]
  · simp

theorem Accessor.binding?_eq_some_iff {a : Accessor} :
    a.binding? separator = some (member, b) ↔ a.BindsTo separator member b := by
  constructor
  · intro bound
    have reads := reads_of_binding? bound
    simp only [binding?, bind] at bound
    split at bound
    · cases bound
    · obtain ⟨rawType, returns, bound⟩ := Option.bind_eq_some_iff.1 bound
      obtain ⟨⟨member', kind⟩, split, bound⟩ := Option.bind_eq_some_iff.1 bound
      cases bound
      obtain ⟨named, last, nonempty⟩ := splitAccessorName?_eq_some_iff.1 split
      exact ⟨takesSegment_iff.1 reads.takesSegment, returns, named, last, nonempty, rfl, rfl⟩
  · rintro ⟨parameter, returns, named, last, nonempty, accessor, location⟩
    obtain ⟨kind, rawType, _, _⟩ := b
    have split := splitAccessorName?_eq_some_iff.2 ⟨named, last, nonempty⟩
    cases accessor
    cases location
    simp [binding?, takesSegment_iff.2 parameter, returns, split]

theorem Accessor.binding?_eq_none_iff {a : Accessor} :
    a.binding? separator = none ↔ ∀ member b, ¬ a.BindsTo separator member b := by
  simp [← binding?_eq_some_iff, Option.eq_none_iff_forall_ne_some]

theorem Accessor.listed_iff {accessors : List Accessor} {entries : List (String × MemberBinding)} :
    Listed separator accessors entries ↔ accessors.filterMap (·.binding? separator) = entries := by
  constructor
  · intro listed
    induction listed with
    | nil => rfl
    | pass none _ ih => rw [List.filterMap_cons_none (binding?_eq_none_iff.2 none), ih]
    | take binds _ ih => rw [List.filterMap_cons_some (binding?_eq_some_iff.2 binds), ih]
  · rintro rfl
    induction accessors with
    | nil => exact .nil
    | cons a accessors ih =>
      cases bound : a.binding? separator with
      | none =>
        rw [List.filterMap_cons_none bound]
        exact .pass (binding?_eq_none_iff.1 bound) ih
      | some entry =>
        rw [List.filterMap_cons_some bound]
        exact .take (binding?_eq_some_iff.1 bound) ih

def boundMembers (separator : Char) (accessors : List Accessor) : List String :=
  (accessors.filterMap (·.binding? separator)).map (·.1)

theorem boundMembers_append (front back : List Accessor) :
    boundMembers separator (front ++ back) =
      boundMembers separator front ++ boundMembers separator back := by
  simp [boundMembers]

theorem boundMembers_cons_of_bindsTo {a : Accessor} (binds : a.BindsTo separator member b)
    (accessors : List Accessor) :
    boundMembers separator (a :: accessors) = member :: boundMembers separator accessors := by
  simp [boundMembers, Accessor.binding?_eq_some_iff.2 binds]

theorem boundMembers_cons_of_none {a : Accessor} (bound : a.binding? separator = none)
    (accessors : List Accessor) :
    boundMembers separator (a :: accessors) = boundMembers separator accessors := by
  simp [boundMembers, bound]

theorem mem_boundMembers_iff {accessors : List Accessor} :
    member ∈ boundMembers separator accessors ↔
      ∃ a ∈ accessors, ∃ b, a.BindsTo separator member b := by
  simp only [boundMembers, List.mem_map, List.mem_filterMap, ← Accessor.binding?_eq_some_iff]
  constructor
  · rintro ⟨⟨_, b⟩, ⟨a, inside, bound⟩, rfl⟩
    exact ⟨a, inside, b, bound⟩
  · rintro ⟨a, inside, b, bound⟩
    exact ⟨(member, b), ⟨a, inside, bound⟩, rfl⟩

theorem nodup_boundMembers_iff {accessors : List Accessor} :
    (boundMembers separator accessors).Nodup ↔ accessors.Pairwise (Accessor.Apart separator) := by
  rw [boundMembers, List.Nodup, List.pairwise_map, List.pairwise_filterMap]
  refine List.Pairwise.iff fun a a' => ?_
  simp only [Accessor.Apart, ← Accessor.binding?_eq_some_iff, Prod.forall]
  constructor
  · exact fun apart member b b' bound bound' => apart member b bound member b' bound' rfl
  · rintro apart member b bound _ b' bound' rfl
    exact apart member b b' bound bound'

theorem exists_first_repeated {accessors : List Accessor}
    (repeated : ¬ (boundMembers separator accessors).Nodup) :
    ∃ front a back member b, accessors = front ++ a :: back ∧
      (boundMembers separator front).Nodup ∧ a.BindsTo separator member b ∧
      member ∈ boundMembers separator front := by
  induction accessors using List.reverseRecOn with
  | nil => exact absurd List.nodup_nil repeated
  | append_singleton front a ih =>
    by_cases apart : (boundMembers separator front).Nodup
    · rw [boundMembers_append] at repeated
      cases bound : a.binding? separator with
      | none =>
        rw [boundMembers_cons_of_none bound] at repeated
        exact absurd (by simpa [boundMembers] using apart) repeated
      | some entry =>
        obtain ⟨member, b⟩ := entry
        have binds := Accessor.binding?_eq_some_iff.1 bound
        refine ⟨front, a, [], member, b, rfl, apart, binds, ?_⟩
        by_contra new
        rw [boundMembers_cons_of_bindsTo binds] at repeated
        refine repeated (apart.append (List.nodup_singleton member) ?_)
        exact List.disjoint_singleton.2 new
    · obtain ⟨front', a', back, member, b, rfl, apart', binds, before⟩ := ih apart
      exact ⟨front', a', back ++ [a], member, b, by simp, apart', binds, before⟩

namespace NativeType

variable {t : NativeType}

theorem foldlM_bindAccessor (t : NativeType) (accessors : List Accessor)
    (bound : Table String MemberBinding)
    (apart : (bound.keys ++ boundMembers separator accessors).Nodup) :
    accessors.foldlM (t.bindAccessor separator) bound =
      .ok ⟨bound.entries ++ accessors.filterMap (·.binding? separator)⟩ := by
  induction accessors generalizing bound with
  | nil => simp; rfl
  | cons a accessors ih =>
    rw [List.foldlM_cons]
    cases binding : a.binding? separator with
    | none =>
      have step : t.bindAccessor separator bound a = .ok bound := by simp [bindAccessor, binding]
      rw [boundMembers_cons_of_none binding] at apart
      rw [step, List.filterMap_cons_none binding]
      exact ih bound apart
    | some entry =>
      obtain ⟨member, b⟩ := entry
      rw [boundMembers_cons_of_bindsTo (Accessor.binding?_eq_some_iff.1 binding),
        List.append_cons] at apart
      -- The member is among those that `apart` compares, with those bound before in front.
      have new : bound.contains member = false := by
        rw [Bool.eq_false_iff, ne_eq, Table.contains_eq_true_iff]
        exact fun known => List.disjoint_of_nodup_append (List.nodup_append'.1 apart).1 known
          List.mem_cons_self
      have step : t.bindAccessor separator bound a = .ok ⟨bound.entries ++ [(member, b)]⟩ := by
        simp [bindAccessor, binding, new, Table.insert_of_not_contains new]
      have rest := ih ⟨bound.entries ++ [(member, b)]⟩ (by rwa [Table.keys, List.map_append])
      rw [step, List.filterMap_cons_some binding,
        List.append_cons bound.entries (member, b) (accessors.filterMap _)]
      exact rest

theorem bindings_eq_ok (t : NativeType) (apart : (boundMembers separator t.accessors).Nodup) :
    t.bindings separator = .ok ⟨t.accessors.filterMap (·.binding? separator)⟩ :=
  t.foldlM_bindAccessor t.accessors .empty apart

theorem bindings_eq_error (t : NativeType) {front back : List Accessor} {a : Accessor}
    (split : t.accessors = front ++ a :: back) (apart : (boundMembers separator front).Nodup)
    (binds : a.BindsTo separator member b) (before : member ∈ boundMembers separator front) :
    t.bindings separator = .error (.duplicateAccessor t.name member a.location) := by
  have earlier := t.foldlM_bindAccessor front .empty apart
  have known : (⟨front.filterMap (·.binding? separator)⟩ : Table String MemberBinding).contains
      member = true := Table.contains_eq_true_iff.2 before
  have step : t.bindAccessor separator ⟨front.filterMap (·.binding? separator)⟩ a =
      .error (.duplicateAccessor t.name member a.location) := by
    simp [bindAccessor, Accessor.binding?_eq_some_iff.2 binds, known]
  have late : (a :: back).foldlM (t.bindAccessor separator)
      ⟨front.filterMap (·.binding? separator)⟩ =
        .error (.duplicateAccessor t.name member a.location) := by
    rw [List.foldlM_cons, step]
    rfl
  rw [bindings, split, List.foldlM_append, earlier]
  exact late

/-- The bindings of a type are those of its accessors that count, in their order, if no member has
two. Otherwise the first accessor whose member occurred before it is reported. -/
theorem bindings_never_pick (t : NativeType) (separator : Char) :
    ((∃ bound, t.bindings separator = .ok bound) ↔
      t.accessors.Pairwise (Accessor.Apart separator)) ∧
    (∀ bound, t.bindings separator = .ok bound →
      bound.keys.Nodup ∧ Accessor.Listed separator t.accessors bound.entries) ∧
    ∀ failure, t.bindings separator = .error failure ↔
      ∃ front a back member b, t.accessors = front ++ a :: back ∧
        front.Pairwise (Accessor.Apart separator) ∧ a.BindsTo separator member b ∧
        (∃ a' ∈ front, ∃ b', a'.BindsTo separator member b') ∧
        failure = .duplicateAccessor t.name member a.location := by
  simp only [← nodup_boundMembers_iff, ← mem_boundMembers_iff]
  by_cases apart : (boundMembers separator t.accessors).Nodup
  · rw [t.bindings_eq_ok apart]
    refine ⟨iff_of_true ⟨_, rfl⟩ apart, ?_, fun failure => iff_of_false nofun ?_⟩
    · rintro bound same
      cases same
      exact ⟨apart, Accessor.listed_iff.2 rfl⟩
    · rintro ⟨front, a, back, member, b, split, -, binds, before, -⟩
      rw [split, boundMembers_append, boundMembers_cons_of_bindsTo binds] at apart
      exact List.disjoint_of_nodup_append apart before List.mem_cons_self
  · obtain ⟨front, a, back, member, b, split, first, binds, before⟩ := exists_first_repeated apart
    have reported := t.bindings_eq_error split first binds before
    rw [reported]
    refine ⟨iff_of_false nofun apart, nofun, fun failure => ⟨?_, ?_⟩⟩
    · rintro same
      cases same
      exact ⟨front, a, back, member, b, split, first, binds, before, rfl⟩
    · rintro ⟨front', a', back', member', b', split', first', binds', before', rfl⟩
      exact reported.symm.trans (t.bindings_eq_error split' first' binds' before')

example :
    let get : Accessor := ⟨"max_width_get", ["Segment"], some "u32", .unknown⟩
    let slice : Accessor := ⟨"max_width_slice", ["memory::Segment"], some "Segment", .unknown⟩
    let t : NativeType := ⟨"VkSample", "bindings::VkSample", "", 1, [get, slice], true, .unknown⟩
    t.bindings '_' = .error (.duplicateAccessor "VkSample" "max_width" .unknown) := by
  rfl

end NativeType
end Bindwright
