import Bindwright.ItemPath
import Mathlib.Data.List.Basic
import Mathlib.Data.List.Induction

namespace Bindwright.Source

theorem intercalate_cons_inj {one two : String} {names : List String} :
    "::".intercalate (one :: names) = "::".intercalate (two :: names) ↔ one = two := by
  cases names with
  | nil => rw [String.intercalate_singleton, String.intercalate_singleton]
  | cons name names =>
    rw [String.intercalate_cons_cons, String.intercalate_cons_cons, String.append_left_inj,
      String.append_left_inj]

theorem intercalate_append {front : List String} (inhabited : front ≠ []) (rest : List String) :
    "::".intercalate (front ++ rest) = "::".intercalate ("::".intercalate front :: rest) := by
  induction front with
  | nil => exact absurd rfl inhabited
  | cons name front ih =>
    cases front with
    | nil => rw [String.intercalate_singleton, List.singleton_append]
    | cons next front =>
      have later := ih (List.cons_ne_nil _ _)
      rw [List.cons_append, List.cons_append, String.intercalate_cons_cons, ← List.cons_append,
        later, String.intercalate_cons_cons]
      cases rest with
      | nil => rw [String.intercalate_singleton, String.intercalate_singleton]
      | cons more rest =>
        rw [String.intercalate_cons_cons, String.intercalate_cons_cons]
        simp only [String.append_assoc]

theorem head?_intercalate {first : String} (filled : first ≠ "") (names : List String) :
    ("::".intercalate (first :: names)).toList.head? = first.toList.head? := by
  have some : first.toList ≠ [] := fun empty => filled (String.toList_eq_nil_iff.1 empty)
  cases names with
  | nil => rw [String.intercalate_singleton]
  | cons name names =>
    rw [String.intercalate_cons_cons, String.append_assoc, String.toList_append,
      List.head?_append_of_ne_nil _ some]

theorem segments_ne_nil (path : String) : ItemPath.segments path ≠ [] := by
  have cut : ∀ current cs, ItemPath.segmentsFrom current cs ≠ [] := by
    intro current cs
    fun_induction ItemPath.segmentsFrom current cs with
    | case1 | case2 => exact List.cons_ne_nil _ _
    | case3 current c cs _ ih => exact ih
  exact fun empty => cut [] path.toList (List.map_eq_nil_iff.1 empty)

def weight : List String → Nat
  | [] => 0
  | name :: names => name.length + 2 + weight names

theorem weight_append (names more : List String) :
    weight (names ++ more) = weight names + weight more := by
  induction names with
  | nil => simp [weight]
  | cons name names ih =>
    rw [List.cons_append, weight, weight, ih, ← Nat.add_assoc]

theorem length_intercalate (names : List String) :
    ("::".intercalate names).length = weight names - 2 := by
  induction names with
  | nil => rfl
  | cons name names ih =>
    cases names with
    | nil => simp [weight]
    | cons next names =>
      have separator : "::".length = 2 := rfl
      rw [String.intercalate_cons_cons, String.length_append, String.length_append, separator, ih]
      simp only [weight]
      omega

theorem weight_dropLast_le (names : List String) : weight names.dropLast ≤ weight names := by
  induction names using List.reverseRecOn with
  | nil => exact Nat.le_refl _
  | append_singleton names name ih =>
    rw [List.dropLast_concat, weight_append]
    exact Nat.le_add_right _ _

theorem two_le_weight {names : List String} (inhabited : names ≠ []) : 2 ≤ weight names := by
  cases names with
  | nil => exact absurd rfl inhabited
  | cons name names =>
    rw [weight]
    omega

theorem intercalate_ne {names more : List String} (lighter : weight names < weight more)
    (two : 2 < weight more) : "::".intercalate names ≠ "::".intercalate more := by
  intro same
  have lengths := congrArg String.length same
  rw [length_intercalate, length_intercalate] at lengths
  omega

end Bindwright.Source
