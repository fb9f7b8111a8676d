import Bindwright.Location
import Mathlib.Data.List.Induction

namespace Bindwright.Text

def lastLine (cs : List Char) : List Char := (cs.reverse.takeWhile (· ≠ '\n')).reverse

theorem lastLine_concat (cs : List Char) (c : Char) :
    lastLine (cs ++ [c]) = if c = '\n' then [] else lastLine cs ++ [c] := by
  by_cases feed : c = '\n' <;> simp [lastLine, feed]

theorem lastLine_append {cs ds : List Char} (plain : '\n' ∉ ds) :
    lastLine (cs ++ ds) = lastLine cs ++ ds := by
  induction ds using List.reverseRecOn with
  | nil => simp
  | append_singleton ds d ih =>
    simp only [List.mem_append, List.mem_singleton, not_or] at plain
    rw [← List.append_assoc, lastLine_concat, if_neg (Ne.symm plain.2), ih plain.1,
      List.append_assoc]

namespace Position

def atEnd (cs : List Char) : Position := ⟨cs.count '\n' + 1, (lastLine cs).length⟩

theorem start_after (cs : List Char) : start.after cs = atEnd cs := by
  induction cs using List.reverseRecOn with
  | nil => rfl
  | append_singleton cs c ih =>
    rw [after_append, ih, atEnd, atEnd, lastLine_concat]
    by_cases feed : c = '\n' <;> simp [advance, feed]

theorem after_line_column (p : Position) (cs : List Char) :
    p.line < (p.after cs).line ∨
      (p.after cs).line = p.line ∧ (p.after cs).column = p.column + cs.length := by
  induction cs using List.reverseRecOn with
  | nil => exact .inr ⟨rfl, rfl⟩
  | append_singleton cs c ih =>
    rw [after_append, after_cons, after_nil, advance]
    by_cases feed : c = '\n'
    · rw [if_pos feed]
      left
      dsimp only
      omega
    · rw [if_neg feed, List.length_append, List.length_singleton]
      dsimp only
      omega

theorem after_ne (p : Position) {cs : List Char} (some : cs ≠ []) : p.after cs ≠ p := by
  intro same
  have length := List.length_pos_iff.2 some
  have := p.after_line_column cs
  rw [same] at this
  omega

end Position
end Bindwright.Text
