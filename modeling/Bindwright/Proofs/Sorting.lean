import Bindwright.Files.Path
import Mathlib.Data.List.Nodup
import Mathlib.Data.String.Basic

namespace Bindwright

theorem nodup_eraseDups {α : Type} [DecidableEq α] (as : List α) : as.eraseDups.Nodup := by
  cases as with
  | nil => exact List.nodup_nil
  | cons a as =>
    rw [List.eraseDups_cons, List.nodup_cons, List.mem_eraseDups, List.mem_filter]
    exact ⟨fun twice => by simp at twice, nodup_eraseDups _⟩
termination_by as.length
decreasing_by exact Nat.lt_succ_of_le (List.length_filter_le _ _)

theorem pairwise_mergeSort_le (as : List String) :
    (as.mergeSort fun a b => a ≤ b).Pairwise (· ≤ ·) := by
  have transitive (a b c : String) : decide (a ≤ b) → decide (b ≤ c) → decide (a ≤ c) := by
    simpa using le_trans
  have total (a b : String) : (decide (a ≤ b) || decide (b ≤ a)) = true := by
    simpa using le_total a b
  exact (List.pairwise_mergeSort transitive total as).imp of_decide_eq_true

namespace Files

namespace Component

def label : Component → String
  | normal name => name
  | _ => ""

theorem compare_eq_compareLex : compare = compareLex (compareOn rank) (compareOn label) := by
  funext a b
  cases a <;> cases b <;> rfl

instance : Std.TransCmp compare := by
  rw [compare_eq_compareLex]
  infer_instance

end Component

theorem compareComponents_eq_compareLex :
    compareComponents = List.compareLex Component.compare := by
  funext as bs
  induction as generalizing bs with
  | nil => cases bs <;> rfl
  | cons a as ih =>
    cases bs with
    | nil => rfl
    | cons b bs =>
      rw [compareComponents, List.compareLex, ih]
      cases a.compare b <;> rfl

instance : Std.TransCmp compareComponents := by
  rw [compareComponents_eq_compareLex]
  infer_instance

end Files
end Bindwright
