import Bindwright.Member.Classified
import Bindwright.Proofs.Table
import Bindwright.Proofs.Traversal

namespace Bindwright

open Text Traversal

structure Accessor.Reads (a : Accessor) (separator : Char) (member : String) (b : MemberBinding) :
    Prop where
  takesSegment : a.takesSegment = true
  returns : a.returnType = some b.rawType
  recorded : b.accessor = a.name
  named : a.name = accessorName member separator b.kind.word

variable {separator : Char} {member : String} {binding : MemberBinding}

theorem AccessorKind.eq_word {word : List Char} {kind : AccessorKind}
    (read : AccessorKind.ofWord? word = some kind) : word = kind.word.toList := by
  unfold AccessorKind.ofWord? at read
  split at read
  · cases read
    assumption
  · split at read
    · cases read
      assumption
    · cases read

theorem eq_accessorName {name : String} {kind : AccessorKind}
    (split : splitAccessorName? name separator = some (member, kind)) :
    name = accessorName member separator kind.word := by
  simp only [splitAccessorName?, bind, Option.bind_eq_some_iff] at split
  obtain ⟨⟨front, word⟩, cut, split⟩ := split
  dsimp only at split
  split_ifs at split
  obtain ⟨kind', read, same⟩ := Option.bind_eq_some_iff.1 split
  cases same
  rw [← String.toList_inj, eq_append_of_splitLast? cut, AccessorKind.eq_word read]
  simp [accessorName]

theorem Accessor.reads_of_binding? {a : Accessor}
    (bound : a.binding? separator = some (member, binding)) :
    a.Reads separator member binding := by
  simp only [Accessor.binding?, bind] at bound
  split at bound
  · cases bound
  · rename_i taken
    obtain ⟨rawType, returns, bound⟩ := Option.bind_eq_some_iff.1 bound
    obtain ⟨⟨member', kind⟩, split, bound⟩ := Option.bind_eq_some_iff.1 bound
    cases bound
    exact ⟨by simpa using taken, returns, rfl, eq_accessorName split⟩

namespace NativeType

variable {t : NativeType} {bound : Table String MemberBinding}

theorem find?_foldlM {accessors : List Accessor} {start : Table String MemberBinding}
    (ok : accessors.foldlM (t.bindAccessor separator) start = .ok bound)
    (found : bound.find? member = some binding) :
    start.find? member = some binding ∨ ∃ a ∈ accessors, a.Reads separator member binding := by
  induction accessors generalizing start with
  | nil =>
    cases ok
    exact .inl found
  | cons a accessors ih =>
    rw [List.foldlM_cons] at ok
    obtain ⟨next, step, ok⟩ := bind_eq_ok_iff.1 ok
    rcases ih ok with earlier | ⟨a', later, reads⟩
    · unfold bindAccessor at step
      split at step
      · cases step
        exact .inl earlier
      · rename_i member' binding' own
        split at step
        · cases step
        · cases step
          rw [Table.find?_insert] at earlier
          split at earlier
          · rename_i same
            cases earlier
            exact .inr ⟨a, List.mem_cons_self, same ▸ Accessor.reads_of_binding? own⟩
          · exact .inl earlier
    · exact .inr ⟨a', List.mem_cons_of_mem _ later, reads⟩

theorem find?_bindings (ok : t.bindings separator = .ok bound)
    (found : bound.find? member = some binding) :
    ∃ a ∈ t.accessors, a.Reads separator member binding := by
  rcases find?_foldlM ok found with earlier | reads
  · cases earlier
  · exact reads

theorem checkAccessors_ok {m : Member} {kind : AccessorKind}
    (ok : t.checkAccessors separator m binding kind = .ok ()) :
    binding.kind = kind ∧
      (kind = .get → ∃ a ∈ t.accessors, a.name = setterName m.name separator) := by
  unfold checkAccessors at ok
  split at ok
  · cases ok
  · rename_i same
    split at ok
    · cases ok
    · rename_i present
      refine ⟨not_not.1 same, fun get => ?_⟩
      have found : (t.accessor? (setterName m.name separator)).isSome := by
        simpa [get, Option.isSome_iff_ne_none] using present
      obtain ⟨a, found⟩ := Option.isSome_iff_exists.1 found
      exact ⟨a, List.mem_of_find?_eq_some found, by simpa using List.find?_some found⟩

theorem classifyMember_ok {r : Registry} {b : Bindings} {m : Member} {c : ClassifiedMember}
    (ok : t.classifyMember bound r b m = .ok c) :
    c.member = m ∧ c.field = memberFieldName m.name ∧ bound.find? m.name = some c.binding ∧
      t.shapeOf m c.binding.rawType r b = .ok c.shape ∧
      c.binding.kind = c.shape.accessorKind ∧
      (c.shape.accessorKind = .get →
        ∃ a ∈ t.accessors, a.name = setterName m.name b.separator) := by
  unfold classifyMember at ok
  split at ok
  · cases ok
  · rename_i binding found
    obtain ⟨shape, shaped, ok⟩ := bind_eq_ok_iff.1 ok
    obtain ⟨checked, check, ok⟩ := bind_eq_ok_iff.1 ok
    cases ok
    exact ⟨rfl, rfl, found, shaped, checkAccessors_ok check⟩

end NativeType
end Bindwright
