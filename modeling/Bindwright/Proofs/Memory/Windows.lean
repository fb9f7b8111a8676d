import Bindwright.Proofs.Memory.Arrays
import Bindwright.Proofs.Memory.Text

namespace Bindwright.Memory

def Window.cut (w : Window) (bytes : List UInt8) : List UInt8 := (bytes.drop w.offset).take w.size

def splice (offset : Nat) (new bytes : List UInt8) : List UInt8 :=
  bytes.take offset ++ new ++ bytes.drop (offset + new.length)

def Window.part (w : Window) (offset length : Nat) : Except Fault Window :=
  if offset + length ≤ w.size then .ok ⟨w.offset + offset, length⟩
  else .error (.misuse (.outOfBounds offset length w.size))

def checkedAdd (a b : UInt64) : Option UInt64 := if a ≤ a + b then some (a + b) else none

theorem checkedAdd_any (a b : UInt64) {bound : Nat} (small : bound < UInt64.size) :
    (checkedAdd a b).any (fun sum => sum.toNat ≤ bound) = decide (a.toNat + b.toNat ≤ bound) := by
  have sizes : UInt64.size = 2 ^ 64 := rfl
  have first := a.toNat_lt
  have second := b.toNat_lt
  unfold checkedAdd
  by_cases carries : a.toNat + b.toNat < 2 ^ 64
  · have sum : (a + b).toNat = a.toNat + b.toNat := by
      rw [UInt64.toNat_add, Nat.mod_eq_of_lt carries]
    have kept : a ≤ a + b := by
      rw [UInt64.le_iff_toNat_le, sum]
      omega
    rw [if_pos kept, Option.any_some, sum]
  · have sum : (a + b).toNat = a.toNat + b.toNat - 2 ^ 64 := by
      rw [UInt64.toNat_add]
      omega
    have lost : ¬ a ≤ a + b := by
      rw [UInt64.le_iff_toNat_le, sum]
      omega
    rw [if_neg lost, Option.any_none]
    symm
    rw [decide_eq_false_iff_not]
    omega

namespace Segment

variable {root s t : Segment} {offset : Nat}

def content (s : Segment) (m : Contents) : List UInt8 := m.read s.start s.length

inductive Derived (root : Segment) : Segment → Nat → Prop where
  | root : Derived root root 0
  | slice {s t : Segment} {offset place length : Nat} (derived : Derived root s offset)
      (sliced : s.slice place length = .ok t) : Derived root t (offset + place)
  | element {s t : Segment} {offset stride i : Nat} (derived : Derived root s offset)
      (listed : (s.elements stride)[i]? = some t) : Derived root t (offset + i * stride)

@[simp] theorem start_at (root : Segment) (w : Window) :
    (root.at w).start = root.start + w.offset := rfl

@[simp] theorem length_at (root : Segment) (w : Window) : (root.at w).length = w.size := rfl

theorem Derived.window (derived : Derived root s offset) :
    s = root.at ⟨offset, s.length⟩ ∧ offset + s.length ≤ root.length := by
  induction derived with
  | root => exact ⟨rfl, (Nat.zero_add _).le⟩
  | slice _ sliced ih =>
    obtain ⟨room, rfl⟩ := slice_eq_ok_iff.1 sliced
    obtain ⟨place, inside⟩ := ih
    rw [place]
    dsimp only [Segment.at]
    refine ⟨by rw [Nat.add_assoc], by omega⟩
  | @element s t offset stride i _ listed ih =>
    rw [getElem?_elements] at listed
    split at listed
    · rename_i fits
      cases listed
      obtain ⟨place, inside⟩ := ih
      have ends := fits.2
      rw [Nat.succ_mul] at ends
      rw [place]
      dsimp only [Segment.at]
      exact ⟨by rw [Nat.add_assoc], by omega⟩
    · cases listed

theorem Derived.span_subset (derived : Derived root s offset) : s.span ⊆ root.span := by
  obtain ⟨place, inside⟩ := derived.window
  rw [place]
  refine Set.Ico_subset_Ico (Nat.le_add_right _ _) ?_
  dsimp only [Segment.at]
  omega

theorem slice_at (root : Segment) (w : Window) (offset length : Nat) :
    (root.at w).slice offset length = (w.part offset length).map root.at := by
  by_cases room : offset + length ≤ w.size
  · simp [slice, Window.part, room, Except.map, Segment.at, Nat.add_assoc]
  · simp [slice, Window.part, room, Except.map]

theorem slice_checked (s : Segment) (small : s.length < UInt64.size) (offset length : UInt64) :
    (s.slice offset.toNat length.toNat).isOk =
      (checkedAdd offset length).any fun last => last.toNat ≤ s.length := by
  rw [checkedAdd_any offset length small, slice]
  split
  · rename_i room
    rw [decide_eq_true room]
    rfl
  · rename_i room
    rw [decide_eq_false room]
    rfl

theorem slice_slice {length place length' : Nat} (sliced : s.slice offset length = .ok t)
    (room : place + length' ≤ length) : t.slice place length' = s.slice (offset + place) length' := by
  obtain ⟨within, rfl⟩ := slice_eq_ok_iff.1 sliced
  simp only [slice]
  rw [if_pos room, if_pos (by omega), Nat.add_assoc]

@[simp] theorem length_content (s : Segment) (m : Contents) : (s.content m).length = s.length :=
  Contents.length_read m s.start s.length

theorem getElem?_content (m : Contents) (i : Nat) :
    (s.content m)[i]? = if i < s.length then some (m.byte (s.start + i)) else none := by
  split
  · rename_i within
    exact Contents.getElem?_read m within
  · rename_i beyond
    rw [List.getElem?_eq_none (by rw [length_content]; omega)]

theorem content_at (m : Contents) {w : Window} (inside : w.offset + w.size ≤ root.length) :
    (root.at w).content m = w.cut (root.content m) := by
  apply List.ext_getElem?
  intro i
  rw [Window.cut, getElem?_content, List.getElem?_take, List.getElem?_drop, getElem?_content,
    start_at]
  by_cases within : i < w.size
  · have below : w.offset + i < root.length := by omega
    simp [within, below, Nat.add_assoc]
  · simp [within]

theorem content_write (m : Contents) {new : List UInt8} (inside : offset + new.length ≤ root.length) :
    root.content (m.write (root.start + offset) new) = splice offset new (root.content m) := by
  have front : ((root.content m).take offset).length = offset := by
    rw [List.length_take, length_content]
    omega
  apply List.ext_getElem?
  intro i
  rw [splice, getElem?_content, Contents.byte_write]
  rcases Nat.lt_or_ge i offset with before | above
  · rw [List.append_assoc, List.getElem?_append_left (by omega), List.getElem?_take, if_pos before,
      getElem?_content, if_neg (show ¬ root.start + offset ≤ root.start + i by omega)]
  · rw [if_pos (show root.start + offset ≤ root.start + i by omega),
      show root.start + i - (root.start + offset) = i - offset by omega]
    rcases Nat.lt_or_ge i (offset + new.length) with within | after
    · rw [List.getElem?_append_left (by simp; omega), List.getElem?_append_right (by omega), front,
        List.getElem?_eq_getElem (by omega), if_pos (by omega), Option.getD_some]
    · rw [List.getElem?_append_right (by simp; omega), List.length_append, front,
        List.getElem?_drop, List.getElem?_eq_none (by omega), Option.getD_none, getElem?_content,
        show offset + new.length + (i - (offset + new.length)) = i by omega]

end Segment
end Bindwright.Memory
