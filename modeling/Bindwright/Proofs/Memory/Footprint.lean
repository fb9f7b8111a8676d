import Bindwright.Memory.Segment
import Mathlib.Order.Interval.Set.Basic

namespace Bindwright.Memory

def Contents.AgreeOn (region : Set Nat) (m m' : Contents) : Prop :=
  ∀ x ∈ region, m'.byte x = m.byte x

def Segment.span (s : Segment) : Set Nat := Set.Ico s.start (s.start + s.length)

/-- On memory that agrees with `m` on `region`, the result is the one on `m`. -/
def LooksAt {α : Type} (access : Access α) (m : Contents) (region : Set Nat) : Prop :=
  ∀ m', m.AgreeOn region m' → access m' = access m

namespace Contents.AgreeOn

variable {region other : Set Nat} {m m' m'' : Contents}

theorem refl (region : Set Nat) (m : Contents) : AgreeOn region m m := fun _ _ => rfl

theorem mono (agree : AgreeOn region m m') (le : other ⊆ region) : AgreeOn other m m' :=
  fun x inside => agree x (le inside)

theorem trans (first : AgreeOn region m m') (second : AgreeOn region m' m'') :
    AgreeOn region m m'' :=
  fun x inside => (second x inside).trans (first x inside)

theorem read_congr {start length : Nat} (agree : AgreeOn (Set.Ico start (start + length)) m m') :
    m'.read start length = m.read start length := by
  simp only [Contents.read, List.map_inj_left, List.mem_range]
  intro i bound
  exact agree (start + i) ⟨Nat.le_add_right _ _, Nat.add_lt_add_left bound _⟩

end Contents.AgreeOn

theorem Contents.agreeOn_write (m : Contents) (start : Nat) (bytes : List UInt8) :
    AgreeOn (Set.Ico start (start + bytes.length))ᶜ m (m.write start bytes) := by
  intro x outside
  rw [Contents.byte_write]
  split
  · rename_i above
    have beyond : bytes.length ≤ x - start := by
      rw [Set.mem_compl_iff, Set.mem_Ico, not_and, not_lt] at outside
      have := outside above
      omega
    rw [List.getElem?_eq_none beyond, Option.getD_none]
  · rfl

theorem LooksAt.mono {α : Type} {access : Access α} {m : Contents} {region other : Set Nat}
    (looks : LooksAt access m region) (le : region ⊆ other) : LooksAt access m other :=
  fun m' agree => looks m' (agree.mono le)

theorem Access.bind_apply {α β : Type} (access : Access α) (next : α → Access β) (m : Contents) :
    (access >>= next) m = (access m).bind fun a => next a m := rfl

theorem Segment.get_apply {α : Type} [Scalar α] (s : Segment) {offset : Nat} (m : Contents)
    (within : offset + Scalar.width α ≤ s.length) :
    s.get offset m = .ok (Scalar.decode (m.read (s.start + offset) (Scalar.width α)) : α) := by
  have window : s.slice offset (Scalar.width α) = .ok ⟨s.start + offset, Scalar.width α⟩ := by
    simp [Segment.slice, within]
  unfold Segment.get
  rw [window]
  rfl

theorem Action.lift_apply {α : Type} {access : Access α} {arena : Arena} {a : α}
    (held : access arena.contents = .ok a) : (liftM access : Action α) arena = (.ok a, arena) := by
  change (access arena.contents, arena) = _
  rw [held]

theorem Action.bind_ok {α β : Type} {action : Action α} {before after : Arena} {a : α}
    (run : action before = (.ok a, after)) (next : α → Action β) :
    (action >>= next) before = next a after := by
  change (ExceptT.bindCont next (action before).1) (action before).2 = _
  rw [run]
  rfl

theorem Segment.set_apply {α : Type} [Scalar α] (s : Segment) {offset : Nat} (a : α)
    (arena : Arena) (within : offset + Scalar.width α ≤ s.length) :
    s.set offset a arena =
      (.ok (), { arena with
        contents := arena.contents.write (s.start + offset) (Scalar.encode a) }) := by
  have window : s.slice offset (Scalar.width α) = .ok ⟨s.start + offset, Scalar.width α⟩ := by
    simp [Segment.slice, within]
  unfold Segment.set
  rw [window]
  rfl

end Bindwright.Memory
