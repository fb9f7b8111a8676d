import Bindwright.Text.Case

namespace Bindwright.Text

namespace Stripe

def alternates (s : Stripe) : Bool := s.step == 2 || s.first == s.last

def apart (s t : Stripe) : Bool :=
  Nat.blt s.last t.first || Nat.blt t.last s.first ||
    (s.alternates && t.alternates && s.first % 2 != t.first % 2)

theorem contains_iff {s : Stripe} {n : Nat} :
    s.contains n = true ↔ s.first ≤ n ∧ n ≤ s.last ∧ (n - s.first) % s.step = 0 := by
  simp only [contains, Bool.and_eq_true, decide_eq_true_eq, beq_iff_eq, and_assoc]

theorem mod_two_of_alternates {s : Stripe} {n : Nat} (alternates : s.alternates = true)
    (inside : s.contains n = true) : n % 2 = s.first % 2 := by
  obtain ⟨above, below, step⟩ := contains_iff.1 inside
  rcases Bool.or_eq_true_iff.1 alternates with two | single
  · rw [eq_of_beq two] at step
    omega
  · have same := eq_of_beq single
    omega

theorem contains_of_apart {s t : Stripe} {n : Nat} (apart : s.apart t = true)
    (inside : s.contains n = true) : t.contains n = false := by
  rw [Bool.eq_false_iff]
  intro inside'
  obtain ⟨above, below, -⟩ := contains_iff.1 inside
  obtain ⟨above', below', -⟩ := contains_iff.1 inside'
  simp only [Stripe.apart, Bool.or_eq_true, Bool.and_eq_true, bne_iff_ne, Nat.blt_eq] at apart
  rcases apart with (before | behind) | ⟨⟨even, odd⟩, differ⟩
  · omega
  · omega
  · have own := mod_two_of_alternates even inside
    have own' := mod_two_of_alternates odd inside'
    exact differ (own.symm.trans own')

end Stripe

theorem apart_caseTables :
    (CaseTable.lowercase.all fun s => CaseTable.uppercase.all fun t => s.apart t) = true := by
  decide +kernel

theorem isUppercase_of_isLowercase {c : Char} (small : isLowercase c = true) :
    isUppercase c = false := by
  unfold isLowercase at small
  unfold isUppercase
  split
  · rename_i ascii
    rw [if_pos ascii] at small
    have lastCapital : 'Z'.val.toNat = 90 := rfl
    have firstSmall : 'a'.val.toNat = 97 := rfl
    change ('a'.val ≤ c.val && c.val ≤ 'z'.val) = true at small
    change decide ('A'.val ≤ c.val ∧ c.val ≤ 'Z'.val) = false
    simp only [Bool.and_eq_true, decide_eq_true_eq, decide_eq_false_iff_not,
      UInt32.le_iff_toNat_le] at small ⊢
    omega
  · rename_i wide
    rw [if_neg wide] at small
    obtain ⟨s, listed, inside⟩ := List.any_eq_true.1 small
    rw [inStripes, List.any_eq_false]
    intro t listed'
    have apart := List.all_eq_true.1 (List.all_eq_true.1 apart_caseTables s listed) t listed'
    rw [Stripe.contains_of_apart apart inside]
    exact Bool.false_ne_true

def IsAscii (cs : List Char) : Prop := ∀ c ∈ cs, c.toNat < 128

instance : DecidablePred IsAscii := fun cs => List.decidableBAll _ cs

theorem forall_ascii {p : Char → Prop} (each : ∀ n, n < 128 → p (Char.ofNat n)) (c : Char)
    (ascii : c.toNat < 128) : p c := by
  have here := each c.toNat ascii
  rwa [Char.ofNat_toNat] at here

theorem cases_of_ascii {c : Char} (ascii : c.toNat < 128) :
    isUppercase c = c.isUpper ∧ isLowercase c = c.isLower ∧ lowerOf c = [c.toLower] :=
  ⟨if_pos ascii, if_pos ascii, if_pos ascii⟩

theorem toLower_of_ascii : ∀ c : Char, c.toNat < 128 →
    c.toLower.toNat < 128 ∧ c.toLower.isUpper = false ∧ c.toLower.toLower = c.toLower ∧
      (c.toLower = '_' ↔ c = '_') :=
  forall_ascii (by decide +kernel)

end Bindwright.Text
