import Bindwright.Memory.Enumeration
import Mathlib.Data.List.Basic

namespace Bindwright.Memory

def IsSet (w : UInt32) (i : Nat) : Prop := w.toBitVec.getLsbD i = true

instance (w : UInt32) : DecidablePred (IsSet w) :=
  fun i => inferInstanceAs (Decidable (w.toBitVec.getLsbD i = true))

theorem IsSet.lt {w : UInt32} {i : Nat} (set : IsSet w i) : i < 32 := BitVec.lt_of_getLsbD set

theorem eq_of_isSet {v w : UInt32} (same : ∀ i, IsSet v i ↔ IsSet w i) : v = w := by
  refine UInt32.eq_of_toBitVec_eq (BitVec.eq_of_getLsbD_eq fun i _ => ?_)
  exact Bool.eq_iff_iff.2 (same i)

theorem isSet_zero (i : Nat) : ¬ IsSet 0 i := by
  simp [IsSet]

theorem isSet_or {v w : UInt32} {i : Nat} : IsSet (v ||| w) i ↔ IsSet v i ∨ IsSet w i := by
  simp only [IsSet, UInt32.toBitVec_or, BitVec.getLsbD_or, Bool.or_eq_true]

theorem isSet_and {v w : UInt32} {i : Nat} : IsSet (v &&& w) i ↔ IsSet v i ∧ IsSet w i := by
  simp only [IsSet, UInt32.toBitVec_and, BitVec.getLsbD_and, Bool.and_eq_true]

theorem isSet_and_not {v w : UInt32} {i : Nat} :
    IsSet (v &&& ~~~w) i ↔ IsSet v i ∧ ¬ IsSet w i := by
  rw [isSet_and]
  refine and_congr_right fun set => ?_
  simp [IsSet, set.lt]

theorem and_eq_right_iff {v w : UInt32} : v &&& w = w ↔ ∀ i, IsSet w i → IsSet v i := by
  constructor
  · intro part i set
    rw [← part, isSet_and] at set
    exact set.1
  · intro part
    exact eq_of_isSet fun i => isSet_and.trans ⟨And.right, fun set => ⟨part i set, set⟩⟩

namespace BitFlag

variable {α : Type} [BitFlag α]

/-- Every flag is listed, and stands for one bit at most. Two flags may stand for the same bit. -/
structure SingleBits (α : Type) [BitFlag α] : Prop where
  listed : ∀ a : α, a ∈ (Enumerated.all : List α)
  single : ∀ (a : α) (i j : Nat), IsSet (bit a) i → IsSet (bit a) j → i = j

def union (flags : List α) : UInt32 := flags.foldr (fun a bits => bit a ||| bits) 0

theorem isSet_union {flags : List α} {i : Nat} :
    IsSet (union flags) i ↔ ∃ a ∈ flags, IsSet (bit a) i := by
  induction flags with
  | nil => exact iff_of_false (isSet_zero i) (by simp)
  | cons a flags ih =>
    change IsSet (bit a ||| union flags) i ↔ _
    rw [isSet_or, ih, List.exists_mem_cons_iff]

theorem SingleBits.bit_eq_of_isSet (law : SingleBits α) {a b : α} {i : Nat} (set : IsSet (bit a) i)
    (set' : IsSet (bit b) i) : bit a = bit b := by
  refine eq_of_isSet fun j => ⟨fun other => ?_, fun other => ?_⟩
  · exact law.single a j i other set ▸ set'
  · exact law.single b j i other set' ▸ set

end BitFlag

namespace FlagSet

open BitFlag

variable {α : Type} [BitFlag α] {s : FlagSet α}

theorem contains_iff {a : α} :
    s.contains a = true ↔ bit a ≠ 0 ∧ ∀ i, IsSet (bit a) i → IsSet s.bits i := by
  rw [contains, Bool.and_eq_true, bne_iff_ne, beq_iff_eq, and_eq_right_iff]

theorem contains_iff_of_isSet (law : SingleBits α) {a : α} {i : Nat} (set : IsSet (bit a) i) :
    s.contains a = true ↔ IsSet s.bits i := by
  rw [contains_iff]
  constructor
  · exact fun inside => inside.2 i set
  · intro held
    refine ⟨fun zero => isSet_zero i (zero ▸ set), fun j other => ?_⟩
    exact law.single a i j set other ▸ held

theorem isSet_union_toList (law : SingleBits α) {i : Nat} :
    IsSet (union s.toList) i ↔
      IsSet s.bits i ∧ IsSet (union (Enumerated.all : List α)) i := by
  rw [isSet_union, isSet_union]
  constructor
  · rintro ⟨a, member, set⟩
    obtain ⟨listed, inside⟩ := List.mem_filter.1 member
    exact ⟨(contains_iff_of_isSet law set).1 inside, a, listed, set⟩
  · rintro ⟨held, a, listed, set⟩
    exact ⟨a, List.mem_filter.2 ⟨listed, (contains_iff_of_isSet law set).2 held⟩, set⟩

theorem isSet_foldl_and_not (flags : List α) (w : UInt32) (i : Nat) :
    IsSet (flags.foldl (fun bits a => bits &&& ~~~bit a) w) i ↔
      IsSet w i ∧ ¬ IsSet (union flags) i := by
  induction flags generalizing w with
  | nil => exact (and_iff_left (isSet_zero i)).symm
  | cons a flags ih =>
    change _ ↔ _ ∧ ¬ IsSet (bit a ||| union flags) i
    rw [List.foldl_cons, ih, isSet_and_not, isSet_or, not_or, and_assoc]

theorem unknownBits_eq (s : FlagSet α) :
    s.unknownBits = s.bits &&& ~~~union (Enumerated.all : List α) :=
  eq_of_isSet fun i => (isSet_foldl_and_not _ _ i).trans isSet_and_not.symm

theorem bits_insertMany (s : FlagSet α) (flags : List α) :
    (s.insertMany flags).bits = s.bits ||| union flags := by
  unfold insertMany
  refine eq_of_isSet fun i => ?_
  induction flags generalizing s with
  | nil => exact (isSet_or.trans (or_iff_left (isSet_zero i))).symm
  | cons a flags ih =>
    change _ ↔ IsSet (s.bits ||| (bit a ||| union flags)) i
    rw [List.foldl_cons, ih, isSet_or, isSet_or, isSet_or]
    change (IsSet (s.bits ||| bit a) i ∨ _) ↔ _
    rw [isSet_or, or_assoc]

theorem bits_ofList (flags : List α) : (ofList flags).bits = union flags := by
  rw [ofList, bits_insertMany]
  exact eq_of_isSet fun i => isSet_or.trans (or_iff_right (isSet_zero i))

theorem ofList_congr {flags flags' : List α} (same : ∀ a, a ∈ flags ↔ a ∈ flags') :
    ofList flags = ofList flags' := by
  have bits : (ofList flags).bits = (ofList flags').bits := by
    rw [bits_ofList, bits_ofList]
    refine eq_of_isSet fun i => ?_
    simp only [isSet_union, same]
  exact congrArg FlagSet.mk bits

theorem contains_congr (law : SingleBits α) {a b : α} {t : FlagSet α}
    (differ : ∀ i, ¬ IsSet (bit a) i → (IsSet t.bits i ↔ IsSet s.bits i)) (other : bit b ≠ bit a) :
    t.contains b = s.contains b := by
  rw [Bool.eq_iff_iff, contains_iff, contains_iff]
  refine and_congr_right fun _ => forall_congr' fun i => imp_congr_right fun set => ?_
  exact differ i fun shared => other (law.bit_eq_of_isSet set shared)

theorem unknownBits_congr (law : SingleBits α) {a : α} {t : FlagSet α}
    (differ : ∀ i, ¬ IsSet (bit a) i → (IsSet t.bits i ↔ IsSet s.bits i)) :
    t.unknownBits = s.unknownBits := by
  rw [unknownBits_eq, unknownBits_eq]
  refine eq_of_isSet fun i => ?_
  rw [isSet_and_not, isSet_and_not]
  refine and_congr_left fun unknown => differ i fun set => unknown ?_
  exact isSet_union.2 ⟨a, law.listed a, set⟩

theorem isSet_insert_of_not {a : α} {i : Nat} (other : ¬ IsSet (bit a) i) :
    IsSet (s.insert a).bits i ↔ IsSet s.bits i :=
  isSet_or.trans (or_iff_left other)

theorem isSet_erase_of_not {a : α} {i : Nat} (other : ¬ IsSet (bit a) i) :
    IsSet (s.erase a).bits i ↔ IsSet s.bits i :=
  isSet_and_not.trans (and_iff_left other)

/-- A word is the bits of its known flags and its unknown bits. -/
theorem known_flags_and_unknown_bits (law : SingleBits α) (b : UInt32) :
    let s : FlagSet α := ⟨b⟩
    (union s.toList &&& s.unknownBits = 0 ∧ union s.toList ||| s.unknownBits = b) ∧
    (∀ a : α, s.contains a = true ↔ bit a ≠ 0 ∧ ∀ i, IsSet (bit a) i → IsSet b i) ∧
    (∀ flags : List α, (ofList flags).bits = union flags ∧
      ∀ flags', (∀ a, a ∈ flags ↔ a ∈ flags') → ofList flags = ofList flags') ∧
    ∀ a : α, ∀ t ∈ [s.insert a, s.erase a],
      t.unknownBits = s.unknownBits ∧ ∀ a', bit a' ≠ bit a → t.contains a' = s.contains a' := by
  intro s
  refine ⟨⟨?_, ?_⟩, fun a => contains_iff, fun flags => ⟨bits_ofList flags, fun _ => ofList_congr⟩,
    fun a t member => ?_⟩
  · refine eq_of_isSet fun i => iff_of_false ?_ (isSet_zero i)
    rw [isSet_and, isSet_union_toList law, unknownBits_eq, isSet_and_not]
    exact fun both => both.2.2 both.1.2
  · refine eq_of_isSet fun i => ?_
    rw [isSet_or, isSet_union_toList law, unknownBits_eq, isSet_and_not, ← and_or_left]
    exact and_iff_left (Classical.em _)
  · have differ : ∀ i, ¬ IsSet (bit a) i → (IsSet t.bits i ↔ IsSet s.bits i) := by
      rcases List.mem_pair.1 member with rfl | rfl
      · exact fun i => isSet_insert_of_not
      · exact fun i => isSet_erase_of_not
    exact ⟨unknownBits_congr law differ, fun _ => contains_congr law differ⟩

inductive StageFlag where
  | none | transfer | copy | host
  deriving DecidableEq

instance : BitFlag StageFlag where
  typeName := "StageFlag"
  nativeName := "VkStageFlags"
  all := [.none, .transfer, .copy, .host]
  name
    | .none => "None"
    | .transfer => "Transfer"
    | .copy => "Copy"
    | .host => "Host"
  bit
    | .none => 0
    | .transfer => 4
    | .copy => 4
    | .host => 16

theorem StageFlag.singleBits : SingleBits StageFlag where
  listed a := by cases a <;> decide
  single a i j set other := by
    have below : ∀ i < 32, ∀ j < 32, IsSet (bit a) i → IsSet (bit a) j → i = j := by
      cases a <;> decide
    exact below i set.lt j other.lt set other

theorem known_flags_and_unknown_bits_shared :
    let s : FlagSet StageFlag := ⟨21⟩
    SingleBits StageFlag ∧ s.toList = [.transfer, .copy, .host] ∧
      union s.toList ||| s.unknownBits = 21 ∧ (s.erase .copy).unknownBits = s.unknownBits ∧
      (s.erase .copy).contains .transfer = false ∧ (s.erase .copy).contains .host = true := by
  intro s
  obtain ⟨⟨-, whole⟩, -, -, changes⟩ := known_flags_and_unknown_bits StageFlag.singleBits 21
  obtain ⟨unknown, others⟩ := changes .copy (s.erase .copy) (List.mem_pair.2 (.inr rfl))
  have host : (s.erase .copy).contains .host = s.contains .host := others .host (by decide)
  exact ⟨StageFlag.singleBits, by decide, whole, unknown, by decide, host.trans (by decide)⟩

end FlagSet
end Bindwright.Memory
