import Bindwright.Proofs.Memory.Elements
import Mathlib.Logic.Relation

namespace Bindwright.Memory

variable {α β : Type}

namespace Contents

theorem write_nil (m : Contents) (start : Nat) : m.write start [] = m := by
  apply ext
  intro x
  simp [byte_write]

theorem write_append (m : Contents) (start : Nat) (front back : List UInt8) :
    m.write start (front ++ back) = (m.write start front).write (start + front.length) back := by
  apply ext
  intro x
  simp only [byte_write]
  by_cases above : start ≤ x
  · by_cases early : x - start < front.length
    · rw [if_pos above, if_neg (by omega), if_pos above, List.getElem?_append_left early]
    · rw [if_pos above, if_pos (by omega), if_pos above, List.getElem?_append_right (by omega),
        List.getElem?_eq_none (l := front) (by omega), Nat.sub_sub, Option.getD_none]
  · rw [if_neg above, if_neg (by omega), if_neg above]

end Contents

theorem Access.mapM_eq_map {access : α → Access β} {as : List α} {m : Contents} {f : α → β}
    (each : ∀ a ∈ as, access a m = .ok (f a)) : as.mapM access m = .ok (as.map f) := by
  induction as with
  | nil => rfl
  | cons a as ih =>
    have rest := ih fun b member => each b (List.mem_cons_of_mem a member)
    exact mapM_cons_eq_ok_iff.2 ⟨f a, as.map f, each a List.mem_cons_self, rest, rfl⟩

theorem maximalBlock_add_self_lt : maximalBlock + maximalBlock < UInt64.size := by decide

namespace Segment

theorem getElem?_elements (s : Segment) (stride i : Nat) :
    (s.elements stride)[i]? =
      if 0 < stride ∧ (i + 1) * stride ≤ s.length then some ⟨s.start + i * stride, stride⟩
      else none := by
  rw [elements_eq_row, row, List.getElem?_map]
  rcases Nat.eq_zero_or_pos stride with rfl | positive
  · simp
  · have fits : i < s.length / stride ↔ (i + 1) * stride ≤ s.length :=
      Nat.le_div_iff_mul_le positive
    by_cases room : i < s.length / stride
    · rw [List.getElem?_range room, if_pos ⟨positive, fits.1 room⟩]
      rfl
    · rw [List.getElem?_eq_none (by simpa using room), if_neg fun both => room (fits.2 both.2)]
      rfl

def Elements.ComesTo : Elements → Elements → Prop :=
  Relation.ReflTransGen fun e rest => ∃ window, e.next? = some (window, rest)

theorem Elements.ComesTo.place {s : Segment} {stride : Nat} {e : Elements}
    (reached : ComesTo ⟨s, stride, 0⟩ e) :
    e.segment = s ∧ e.stride = stride ∧
      (e.offset = 0 ∨ e.offset ≤ s.length ∧ stride ≤ s.length) := by
  induction reached with
  | refl => exact ⟨rfl, rfl, .inl rfl⟩
  | tail _ step ih =>
    obtain ⟨rfl, rfl, -⟩ := ih
    obtain ⟨window, next⟩ := step
    obtain ⟨-, slice, rfl⟩ := next?_eq_some_iff.1 next
    obtain ⟨room, -⟩ := slice_eq_ok_iff.1 slice
    exact ⟨rfl, rfl, .inr ⟨room, by omega⟩⟩

theorem Elements.ComesTo.fits {s : Segment} {stride : Nat} {e : Elements}
    (reached : ComesTo ⟨s, stride, 0⟩ e) (small : s.length ≤ maximalBlock)
    (word : stride < UInt64.size) : e.offset + e.stride < UInt64.size := by
  obtain ⟨rfl, rfl, first | ⟨within, narrow⟩⟩ := reached.place
  · omega
  · have room := maximalBlock_add_self_lt
    omega

variable [Scalar α]

theorem toList_apply (s : Segment) (m : Contents) :
    s.toList α m = .ok ((List.range (s.length / Scalar.width α)).map fun i =>
      Scalar.decode (m.read (s.start + i * Scalar.width α) (Scalar.width α))) := by
  have each : ∀ e ∈ row s.start (Scalar.width α) (s.length / Scalar.width α),
      (e.get 0 : Access α) m = .ok (Scalar.decode (m.read e.start (Scalar.width α))) := by
    intro e member
    obtain ⟨i, -, rfl⟩ := List.mem_map.1 member
    exact get_apply _ m (Nat.zero_add _).le
  rw [toList, elements_eq_row, Access.mapM_eq_map each, row, List.map_map]
  rfl

theorem forM_row_set (values : List α) (start : Nat) (arena : Arena) :
    ((row start (Scalar.width α) values.length).zip values).forM
        (fun (e, a) => e.set 0 a : Segment × α → Action Unit) arena =
      (.ok (), { arena with
        contents := arena.contents.write start (values.flatMap Scalar.encode) }) := by
  induction values generalizing start arena with
  | nil =>
    rw [List.flatMap_nil, Contents.write_nil]
    rfl
  | cons a values ih =>
    have head := set_apply ⟨start, Scalar.width α⟩ a arena (Nat.zero_add _).le
    rw [List.length_cons, row_succ, List.zip_cons_cons]
    refine (Action.bind_ok head _).trans ((ih _ _).trans ?_)
    rw [List.flatMap_cons, Contents.write_append, Scalar.length_encode]
    rfl

theorem ofList_apply (s : Segment) (values : List α) (arena : Arena)
    (fits : values.length = s.length / Scalar.width α) :
    s.ofList values arena = (.ok (), { arena with
      contents := arena.contents.write s.start (values.flatMap Scalar.encode) }) := by
  have write := Slot.array_write_of_length_eq (Slot.scalar α 0) values s fits
  exact (congrFun write arena).trans (forM_row_set values s.start arena)

theorem ofList_of_length_ne (s : Segment) (values : List α) (arena : Arena)
    (differ : values.length ≠ s.length / Scalar.width α) :
    s.ofList values arena =
      (.error (.conversion (.lengthMismatch (s.length / Scalar.width α) values.length)), arena) :=
  Slot.array_write_of_length_ne (Slot.scalar α 0) values s differ arena

theorem length_flatMap_encode (values : List α) :
    (values.flatMap Scalar.encode).length = values.length * Scalar.width α := by
  simp [List.length_flatMap]

theorem stores_ofList (s : Segment) (values : List α) :
    Stores (s.ofList values) s.start (s.start + s.length)
      (countFault (s.length / Scalar.width α) values) [] fun m => s.toList α m = .ok values := by
  have fills := Slot.array_fills (Slot.scalar_lawful (α := α) 0).fills s.length
  have accepts : values.findSome? (fun _ => (none : Option ConversionError)) = none := by simp
  have stores := fills.stores s rfl values
  simp only [accepts, Option.or_none, Window.repeated_nil, List.map_nil] at stores
  exact stores

theorem toList_write (s : Segment) (values : List α) (m : Contents)
    (fits : values.length = s.length / Scalar.width α) :
    s.toList α (m.write s.start (values.flatMap Scalar.encode)) = .ok values := by
  obtain ⟨m', run, -, held⟩ := (stores_ofList s values).writes ⟨m, 0, 0⟩
  have written := run.symm.trans (ofList_apply s values ⟨m, 0, 0⟩ fits)
  have same : m' = m.write s.start (values.flatMap Scalar.encode) :=
    congrArg (·.2.contents) written
  exact same ▸ held (if_pos fits)

theorem ofList_held {s : Segment} {values : List α} {arena : Arena}
    (held : s.toList α arena.contents = .ok values) : s.ofList values arena = (.ok (), arena) := by
  generalize result : s.ofList values arena = after
  have rewritten := (stores_ofList s values).rewrites arena held
  rw [result] at rewritten
  cases rewritten with
  | kept => rw [Contents.trimmed_nil]
  | overfull split => simp at split

theorem ScalarType.width_lt {t : ScalarType} (listed : t ∈ ScalarType.all) :
    Scalar.width t.type < UInt64.size := by
  simp only [ScalarType.all, List.mem_cons, List.not_mem_nil, or_false] at listed
  rcases listed with rfl | rfl | rfl | rfl | rfl | rfl | rfl | rfl | rfl | rfl | rfl <;> decide

/-- An array of scalars holds what was written to it, if that has as many values as there is room
for, and what was read of it changes nothing when it is written. -/
theorem scalar_arrays_lossless (α : Type) [Scalar α] (s : Segment) (small : s.length ≤ maximalBlock) :
    let width := Scalar.width α
    let count := s.length / width
    (∀ m, ∃ values, s.toList α m = .ok values ∧ values.length = count ∧
      ∀ i < count, ∃ a, values[i]? = some a ∧ s.get (i * width) m = .ok a) ∧
    (∀ values : List α, ∀ arena, values.length = count →
      ∃ m, s.ofList values arena = (.ok (), { arena with contents := m }) ∧
        s.toList α m = .ok values ∧
        arena.contents.AgreeOn (Set.Ico s.start (s.start + count * width))ᶜ m) ∧
    (∀ values : List α, ∀ arena, values.length ≠ count →
      s.ofList values arena =
        (.error (.conversion (.lengthMismatch count values.length)), arena)) ∧
    (∀ arena, ((do s.ofList (← s.toList α)) : Action Unit) arena = (.ok (), arena)) ∧
    (∀ t ∈ ScalarType.all, Scalar.width t.type < UInt64.size) ∧
    ∀ stride < UInt64.size,
      (∀ e, Elements.ComesTo ⟨s, stride, 0⟩ e → e.offset + e.stride < UInt64.size) ∧
      ∀ i, (s.elements stride)[i]? =
        if 0 < stride ∧ (i + 1) * stride ≤ s.length then some ⟨s.start + i * stride, stride⟩
        else none := by
  intro width count
  refine ⟨fun m => ?_, fun values arena fits => ?_, fun values arena => ?_, fun arena => ?_,
    fun t => ScalarType.width_lt, fun stride word => ⟨fun e reached => ?_, ?_⟩⟩
  · refine ⟨_, s.toList_apply m, by simp [width, count], fun i below => ?_⟩
    -- The division rounds down, so the last element ends inside the segment.
    have room : i * width + width ≤ s.length := by
      have ends := Nat.mul_le_of_le_div width (i + 1) s.length below
      rwa [Nat.succ_mul] at ends
    refine ⟨_, ?_, s.get_apply m room⟩
    rw [List.getElem?_map, List.getElem?_range below]
    rfl
  · refine ⟨_, s.ofList_apply values arena fits, s.toList_write values arena.contents fits, ?_⟩
    have agree := arena.contents.agreeOn_write s.start (values.flatMap Scalar.encode)
    rwa [length_flatMap_encode, fits] at agree
  · exact s.ofList_of_length_ne values arena
  · have read := s.toList_apply (α := α) arena.contents
    exact (Action.bind_ok (Action.lift_apply read) _).trans (ofList_held read)
  · exact reached.fits small word
  · exact s.getElem?_elements stride

theorem scalar_arrays_lossless_ten_bytes :
    let s : Segment := ⟨4096, 10⟩
    s.length ≤ maximalBlock ∧
      ∃ m, s.ofList ([7, 9] : List UInt32) Arena.empty =
          (.ok (), { Arena.empty with contents := m }) ∧
        s.toList UInt32 m = .ok [7, 9] ∧
        Arena.empty.contents.AgreeOn (Set.Ico 4096 4104)ᶜ m := by
  intro s
  have small : s.length ≤ maximalBlock := by decide
  have fits : [7, 9].length = s.length / Scalar.width UInt32 := by decide
  have last : s.start + s.length / Scalar.width UInt32 * Scalar.width UInt32 = 4104 := by decide
  obtain ⟨m, written, read, kept⟩ :=
    (scalar_arrays_lossless UInt32 s small).2.1 [7, 9] Arena.empty fits
  rw [last] at kept
  exact ⟨small, m, written, read, kept⟩

end Segment
end Bindwright.Memory
