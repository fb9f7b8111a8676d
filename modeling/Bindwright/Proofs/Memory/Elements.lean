import Bindwright.Proofs.Memory.Slot

namespace Bindwright.Memory

variable {α : Type}

def countFault (expected : Nat) (values : List α) : Option ConversionError :=
  if values.length = expected then none else some (.lengthMismatch expected values.length)

theorem findSome?_cons_eq_or (fault : α → Option ConversionError) (a : α) (values : List α) :
    (a :: values).findSome? fault = (fault a).or (values.findSome? fault) := by
  rw [List.findSome?_cons]
  cases fault a <;> rfl

def Window.repeated (texts : List Window) (stride count : Nat) : List Window :=
  (List.range count).flatMap fun i => texts.map (shift (i * stride))

@[simp] theorem Window.repeated_nil (stride count : Nat) : repeated [] stride count = [] := by
  simp [repeated]

namespace Segment

def row (start stride count : Nat) : List Segment :=
  (List.range count).map fun i => ⟨start + i * stride, stride⟩

@[simp] theorem length_row (start stride count : Nat) :
    (row start stride count).length = count := by
  simp [row]

theorem row_succ (start stride count : Nat) :
    row start stride (count + 1) = ⟨start, stride⟩ :: row (start + stride) stride count := by
  unfold row
  rw [List.range_succ_eq_map, List.map_cons, List.map_map, Nat.zero_mul, Nat.add_zero]
  congr 1
  apply List.map_congr_left
  intro i _
  simp only [Function.comp_apply, Nat.succ_mul]
  congr 1
  omega

theorem Elements.toList_eq_row (e : Elements) (inside : e.offset ≤ e.segment.length) :
    e.toList = row (e.segment.start + e.offset) e.stride
      ((e.segment.length - e.offset) / e.stride) := by
  fun_induction Elements.toList e with
  | case1 e last =>
    have full : e.stride = 0 ∨ e.segment.length - e.offset < e.stride := by
      by_contra room
      have more : ∃ window rest, e.next? = some (window, rest) := by
        refine ⟨_, _, if_neg ?_⟩
        omega
      simp [last] at more
    have none : (e.segment.length - e.offset) / e.stride = 0 := Nat.div_eq_zero_iff.2 full
    rw [none]
    rfl
  | case2 e window rest more ih =>
    obtain ⟨positive, slice, rfl⟩ := Elements.next?_eq_some_iff.1 more
    obtain ⟨room, rfl⟩ := slice_eq_ok_iff.1 slice
    have counted : (e.segment.length - e.offset) / e.stride =
        (e.segment.length - (e.offset + e.stride)) / e.stride + 1 := by
      rw [← Nat.sub_sub, Nat.div_eq_sub_div positive (by omega)]
    rw [counted, row_succ, ih room, Nat.add_assoc]

theorem elements_eq_row (s : Segment) (stride : Nat) :
    s.elements stride = row s.start stride (s.length / stride) :=
  Elements.toList_eq_row ⟨s, stride, 0⟩ (Nat.zero_le _)

theorem length_elements (s : Segment) (stride : Nat) :
    (s.elements stride).length = s.length / stride := by
  rw [elements_eq_row, length_row]

end Segment

namespace Slot

open Segment (row)

variable {elem : Slot α} {stride : Nat} {fault : α → Option ConversionError} {texts : List Window}

def array (elem : Slot α) (stride : Nat) : Slot (List α) where
  read s := (s.elements stride).mapM elem.read
  write values s := s.fill stride elem.write values

theorem stores_row (fills : elem.Fills stride fault texts) (values : List α) (start : Nat) :
    Stores (((row start stride values.length).zip values).forM fun (e, a) => elem.write a e)
      start (start + values.length * stride) (values.findSome? fault)
      ((row start stride values.length).flatMap fun e => texts.map e.at)
      fun m => (row start stride values.length).mapM elem.read m = .ok values := by
  induction values generalizing start with
  | nil =>
    have none_ := Stores.nil start
    rw [List.length_nil, Nat.zero_mul, Nat.add_zero]
    exact none_.congr fun m => iff_true_intro rfl
  | cons a values ih =>
    have head := fills.stores ⟨start, stride⟩ rfl a
    have both := head.seq (ih (start + stride)) (Nat.le_refl _)
    have end_ : start + (values.length + 1) * stride =
        start + stride + values.length * stride := by
      rw [Nat.succ_mul]
      omega
    rw [List.length_cons, Segment.row_succ, end_, findSome?_cons_eq_or, List.flatMap_cons]
    exact both.congr fun m => Access.mapM_cons_eq_ok_cons_iff

variable (elem) in
theorem array_write_of_length_ne (values : List α) (s : Segment)
    (differ : values.length ≠ s.length / stride) (arena : Arena) :
    (array elem stride).write values s arena =
      (.error (.conversion (.lengthMismatch (s.length / stride) values.length)), arena) := by
  simp only [array, Segment.fill, Segment.elements_eq_row, Segment.length_row, ne_eq, differ,
    not_false_eq_true, ↓reduceIte]
  rfl

variable (elem) in
theorem array_write_of_length_eq (values : List α) (s : Segment)
    (fits : values.length = s.length / stride) :
    (array elem stride).write values s =
      ((row s.start stride values.length).zip values).forM fun (e, a) => elem.write a e := by
  simp only [array, Segment.fill, Segment.elements_eq_row, Segment.length_row, fits, ne_eq,
    not_true_eq_false, ↓reduceIte]

theorem map_at_repeated (texts : List Window) (s : Segment) (stride count : Nat) :
    (Window.repeated texts stride count).map s.at =
      (row s.start stride count).flatMap fun e => texts.map e.at := by
  unfold Segment.row Window.repeated
  rw [List.map_flatMap, List.flatMap_map]
  congr 1
  funext i
  rw [List.map_map]
  refine List.map_congr_left fun w _ => ?_
  simp only [Function.comp_apply, Segment.at, Window.shift, Nat.add_assoc]

theorem repeated_inside (inside : ∀ w ∈ texts, w.offset + w.size ≤ stride) (size : Nat) :
    ∀ w ∈ Window.repeated texts stride (size / stride), w.offset + w.size ≤ size := by
  intro w member
  obtain ⟨i, bound, here⟩ := List.mem_flatMap.1 member
  obtain ⟨w', member', rfl⟩ := List.mem_map.1 here
  have ends := inside w' member'
  have below := Nat.mul_le_of_le_div stride (i + 1) size (List.mem_range.1 bound)
  rw [Nat.succ_mul] at below
  simp only [Window.shift]
  omega

theorem array_fills (fills : elem.Fills stride fault texts) (size : Nat) :
    (array elem stride).Fills size
      (fun values => (countFault (size / stride) values).or (values.findSome? fault))
      (Window.repeated texts stride (size / stride)) := by
  have inside := repeated_inside fills.inside size
  refine ⟨inside, ?_⟩
  rintro s rfl values
  rw [map_at_repeated]
  by_cases fits : values.length = s.length / stride
  · have write := array_write_of_length_eq elem values s fits
    have room : s.length / stride * stride ≤ s.length := Nat.div_mul_le_self ..
    have stores := (stores_row fills values s.start).mono (Nat.le_refl _)
      (Nat.add_le_add_left (fits ▸ room) s.start)
    simp only [countFault, fits, ↓reduceIte, Option.none_or]
    rw [write, ← fits]
    refine stores.congr fun m => ?_
    rw [fits, ← Segment.elements_eq_row]
    rfl
  · have write := array_write_of_length_ne elem values s fits
    have never {m : Contents} : ¬ (array elem stride).read s m = .ok values := fun held =>
      fits ((Access.length_of_mapM held).trans (Segment.length_elements s stride))
    simp only [countFault, fits, ↓reduceIte, Option.some_or]
    refine ⟨Nat.le_add_right _ _, fun b member => ?_, fun _ held => absurd held never,
      fun arena => ⟨arena.contents, write arena, .refl _ _, nofun⟩, fun _ held => absurd held never⟩
    rw [← map_at_repeated] at member
    obtain ⟨w, member', rfl⟩ := List.mem_map.1 member
    have ends := inside w member'
    exact Set.Ico_subset_Ico (Nat.le_add_right _ _) (by simp only [Segment.at]; omega)

theorem scalars_lawful [Scalar α] (offset length : Nat) :
    (scalars α offset length).Lawful offset length (countFault (length / Scalar.width α)) [] := by
  have law := within_lawful (array_fills (scalar_lawful (α := α) 0).fills length) offset
  have accepts (values : List α) : values.findSome? (fun _ => (none : Option ConversionError)) =
      none := by simp
  simp only [accepts, Option.or_none, Window.repeated_nil, List.map_nil] at law
  exact law

theorem structures_lawful [Structure α] {fault : α → Option ConversionError}
    {texts : List Window}
    (fills : Fills (⟨Structure.read, Structure.write⟩ : Slot α) (Structure.layout α).size fault
      texts) (offset length : Nat) :
    (structures α offset length).Lawful offset length
      (fun values => (countFault (length / (Structure.layout α).size) values).or
        (values.findSome? fault))
      ((Window.repeated texts (Structure.layout α).size
        (length / (Structure.layout α).size)).map (.shift offset)) :=
  within_lawful (array_fills fills length) offset

end Slot
end Bindwright.Memory
