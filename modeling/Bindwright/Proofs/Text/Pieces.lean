import Bindwright.Text.Affix

namespace Bindwright.Text

theorem splitAll_intercalate {c : Char} {pieces : List (List Char)} (inhabited : pieces ≠ [])
    (plain : ∀ piece ∈ pieces, c ∉ piece) : splitAll c ([c].intercalate pieces) = pieces := by
  induction pieces with
  | nil => exact absurd rfl inhabited
  | cons piece pieces ih =>
    have alone := splitAll_of_not_mem (plain piece List.mem_cons_self)
    cases pieces with
    | nil => rw [List.intercalate_singleton, alone]
    | cons next pieces =>
      have rest := ih (List.cons_ne_nil next pieces) fun piece member =>
        plain piece (List.mem_cons_of_mem _ member)
      rw [List.intercalate_cons_cons, List.append_assoc, List.singleton_append, splitAll_append,
        alone, rest, List.singleton_append]

theorem intercalate_splitAll (c : Char) (cs : List Char) : [c].intercalate (splitAll c cs) = cs := by
  induction cs with
  | nil => rfl
  | cons d cs ih =>
    obtain ⟨piece, pieces, cut⟩ := exists_splitAll c cs
    rw [cut] at ih
    rw [splitAll_cons cut]
    split
    · rename_i separates
      rw [List.intercalate_cons_cons, ih, separates]
      rfl
    · cases pieces with
      | nil => rw [← ih]; rfl
      | cons next pieces => rw [← ih]; rfl

theorem exists_piece_of_mem {c x : Char} {cs : List Char} (member : x ∈ cs) :
    x = c ∨ ∃ piece ∈ splitAll c cs, x ∈ piece := by
  induction cs with
  | nil => cases member
  | cons d cs ih =>
    obtain ⟨piece, pieces, cut⟩ := exists_splitAll c cs
    rw [cut] at ih
    rw [splitAll_cons cut]
    by_cases separates : d = c
    · rw [if_pos separates]
      rcases List.mem_cons.1 member with rfl | later
      · exact .inl separates
      · exact (ih later).imp_right fun ⟨own, listed, inside⟩ =>
          ⟨own, List.mem_cons_of_mem _ listed, inside⟩
    · rw [if_neg separates]
      rcases List.mem_cons.1 member with rfl | later
      · exact .inr ⟨x :: piece, List.mem_cons_self, List.mem_cons_self⟩
      · rcases ih later with same | ⟨own, listed, inside⟩
        · exact .inl same
        · rcases List.mem_cons.1 listed with rfl | behind
          · exact .inr ⟨d :: own, List.mem_cons_self, List.mem_cons_of_mem _ inside⟩
          · exact .inr ⟨own, List.mem_cons_of_mem _ behind, inside⟩

section Empty

variable {c : Char} {cs : List Char} (filled : [] ∉ splitAll c cs)
include filled

theorem head?_ne_of_filled : cs.head? ≠ some c := by
  intro first
  obtain ⟨rest, rfl⟩ := List.head?_eq_some_iff.1 first
  have cut := splitAll_append c [] rest
  rw [List.nil_append] at cut
  exact filled (cut ▸ List.mem_append_left _ (List.mem_singleton_self []))

theorem getLast?_ne_of_filled : cs.getLast? ≠ some c := by
  intro last
  obtain ⟨front, rfl⟩ := List.getLast?_eq_some_iff.1 last
  rw [splitAll_append] at filled
  exact filled (List.mem_append_right _ (List.mem_singleton_self []))

theorem not_infix_of_filled : ¬ [c, c] <:+: cs := by
  rintro ⟨front, rest, rfl⟩
  rw [List.append_assoc, List.cons_append, splitAll_append] at filled
  exact head?_ne_of_filled (fun empty => filled (List.mem_append_right _ empty)) rfl

end Empty

end Bindwright.Text
