import Bindwright.Proofs.Memory.Record

namespace Bindwright.Memory

structure Arena.Extends (before after : Arena) : Prop where
  top_le : before.top ≤ after.top
  agree : before.contents.AgreeOn (Set.Iio before.top) after.contents

namespace Arena.Extends

theorem refl (arena : Arena) : arena.Extends arena := ⟨Nat.le_refl _, .refl _ _⟩

theorem trans {a b c : Arena} (first : a.Extends b) (second : b.Extends c) : a.Extends c :=
  ⟨first.top_le.trans second.top_le,
    first.agree.trans (second.agree.mono (Set.Iio_subset_Iio first.top_le))⟩

theorem write {a b : Arena} {region : Set Nat} {m : Contents} (first : a.Extends b)
    (agree : b.contents.AgreeOn regionᶜ m) (beyond : region ⊆ Set.Ici a.top) :
    a.Extends { b with contents := m } := by
  refine ⟨first.top_le, first.agree.trans (agree.mono fun x below inside => ?_)⟩
  exact absurd (beyond inside) (Nat.not_le.2 below)

end Arena.Extends

structure Arena.Adds (before : Arena) (s : Segment) (after : Arena) : Prop where
  above : before.top ≤ s.start
  below : s.start + s.length ≤ after.top
  bound : s.start < UInt64.size

def Layout.block (layout : Layout) : Nat := 8 * max ((layout.size + 7) / 8) 1

theorem allocate_of_room {layout : Layout} {before : Arena} (narrow : layout.align ≤ 8)
    (small : layout.block ≤ maximalBlock) (room : before.top + layout.block ≤ UInt64.size) :
    allocate layout before = (.ok ⟨before.top, layout.size⟩,
      ⟨before.contents.clear before.top layout.block, before.top + layout.block,
        before.allocations + 1⟩) := by
  have fits : ¬ (layout.block > maximalBlock ∨ before.top + layout.block > UInt64.size) := by
    omega
  simp only [allocate, Nat.not_lt.2 narrow, ↓reduceIte]
  change (if layout.block > maximalBlock ∨ before.top + layout.block > UInt64.size then
    (throw (.misuse .exhausted) : Action Segment) else _) before = _
  rw [if_neg fits]
  rfl

theorem allocate_cases (layout : Layout) (before : Arena) :
    (∃ cause, allocate layout before = (.error (.misuse cause), before)) ∨
      ∃ block, layout.size ≤ block ∧ 0 < block ∧ before.top + block ≤ UInt64.size ∧
        allocate layout before = (.ok ⟨before.top, layout.size⟩,
          ⟨before.contents.clear before.top block, before.top + block, before.allocations + 1⟩) := by
  by_cases wide : layout.align > 8
  · refine .inl ⟨.alignment layout.align, ?_⟩
    simp only [allocate, wide, ↓reduceIte]
    rfl
  · by_cases full : layout.block > maximalBlock ∨ before.top + layout.block > UInt64.size
    · refine .inl ⟨.exhausted, ?_⟩
      simp only [allocate, wide, ↓reduceIte]
      change (if layout.block > maximalBlock ∨ before.top + layout.block > UInt64.size then
        (throw (.misuse .exhausted) : Action Segment) else _) before = _
      rw [if_pos full]
      rfl
    · have room : before.top + layout.block ≤ UInt64.size := by omega
      have made := allocate_of_room (Nat.not_lt.1 wide) (by omega) room
      have whole : layout.size ≤ layout.block ∧ 0 < layout.block := by
        unfold Layout.block
        omega
      exact .inr ⟨layout.block, whole.1, whole.2, room, made⟩

theorem allocate_eq_ok {layout : Layout} {before fresh : Arena} {s : Segment}
    (allocated : allocate layout before = (.ok s, fresh)) :
    s.length = layout.size ∧ before.Extends fresh ∧ before.Adds s fresh ∧
      ∀ x ∈ s.span, fresh.contents.byte x = 0 := by
  rcases allocate_cases layout before with ⟨cause, failed⟩ | ⟨block, fits, positive, room, made⟩
  · rw [failed] at allocated
    cases allocated
  · rw [made] at allocated
    cases allocated
    refine ⟨rfl, ⟨Nat.le_add_right _ _, fun x below => ?_⟩,
      ⟨Nat.le_refl _, Nat.add_le_add_left fits _,
        (Nat.lt_add_of_pos_right positive).trans_le room⟩, fun x inside => ?_⟩
    · exact if_neg fun cleared => absurd below (Nat.not_lt.2 cleared.1)
    · exact if_pos ⟨inside.1, inside.2.trans_le (Nat.add_le_add_left fits _)⟩

theorem Contents.read_zero {m : Contents} {start length : Nat}
    (zero : ∀ x, start ≤ x → x < start + length → m.byte x = 0) :
    m.read start length = List.replicate length 0 := by
  refine List.eq_replicate_iff.2 ⟨length_read .., fun b member => ?_⟩
  obtain ⟨x, above, below, rfl⟩ := mem_read_iff.1 member
  exact zero x above below

theorem allocate_eq_error {layout : Layout} {before after : Arena} {e : Fault}
    (failed : allocate layout before = (.error e, after)) : after = before := by
  rcases allocate_cases layout before with ⟨cause, failed'⟩ | ⟨block, -, -, -, made⟩
  · rw [failed'] at failed
    exact (congrArg Prod.snd failed).symm
  · rw [made] at failed
    cases failed

theorem Structure.store_of_write {α : Type} [Structure α] {a : α} {before fresh after : Arena}
    {raw : Segment} {result : Except Fault Unit}
    (allocated : allocate (layout α) before = (.ok raw, fresh))
    (written : write a raw fresh = (result, after)) :
    store a before = (result.map fun _ => raw, after) := by
  unfold store
  rw [Action.bind_ok allocated]
  cases result with
  | error e => exact Action.bind_error written _
  | ok u => exact Action.bind_ok written _

theorem Structure.store_of_stores {α : Type} [Structure α] {a : α} {before fresh : Arena}
    {raw : Segment} {fault : Option ConversionError} {buffers : List Segment}
    {Held : Contents → Prop}
    (stores : Stores (write a raw) raw.start (raw.start + raw.length) fault buffers Held)
    (allocated : allocate (layout α) before = (.ok raw, fresh)) :
    ∃ m, store a before = ((outcome fault).map fun _ => raw, { fresh with contents := m }) ∧
      before.Extends { fresh with contents := m } ∧ (fault = none → Held m) := by
  obtain ⟨-, ext, adds, -⟩ := allocate_eq_ok allocated
  obtain ⟨m, written, agree, held⟩ := stores.writes fresh
  exact ⟨m, store_of_write allocated written,
    ext.write agree fun _ inside => adds.above.trans inside.1, held⟩

end Bindwright.Memory
