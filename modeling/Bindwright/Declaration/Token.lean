import Bindwright.Declaration.Basic
import Bindwright.Text.Character

namespace Bindwright.Declaration

open Text

inductive Piece where
  | word (first : Char) (rest : List Char)
  | number (first : Char) (rest : List Char)
  | mark (c : Char)
  | blank (c : Char)
  | lineComment (body : List Char)
  -- `body` ends with the closing marks.
  | blockComment (body : List Char)
  | directive (body : List Char)
  deriving DecidableEq, Repr

namespace Piece

def text : Piece → List Char
  | word c cs | number c cs => c :: cs
  | mark c | blank c => [c]
  | lineComment cs => '/' :: '/' :: cs
  | blockComment cs => '/' :: '*' :: cs
  | directive cs => '#' :: cs

def lexeme? : Piece → Option Lexeme
  | word c cs => some (.word (String.ofList (c :: cs)))
  | number c cs => some (.number (String.ofList (c :: cs)))
  | mark c => some (.mark c)
  | _ => none

def leavesLineStart (lineStart : Bool) : Piece → Bool
  | blank c => c = '\n' || lineStart
  | directive _ => lineStart
  | _ => false

end Piece

def startsName (c : Char) : Bool := c.isAlpha || c = '_'

def continuesName (c : Char) : Bool := c.isAlphanum || c = '_'

def continuesNumber (c : Char) : Bool := c.isAlphanum || c = '.'

def onLine (c : Char) : Bool := c != '\n'

/-- The body of a comment up to its closing marks, and what follows. The star that opens the
comment does not close it. -/
def closeComment : (afterStar : Bool) → List Char → Option (List Char × List Char)
  | _, [] => none
  | afterStar, c :: cs =>
    if afterStar && c = '/' then some ([c], cs)
    else (closeComment (c = '*') cs).map fun (body, rest) => (c :: body, rest)

theorem closeComment_append {afterStar : Bool} {cs body rest : List Char}
    (h : closeComment afterStar cs = some (body, rest)) : cs = body ++ rest := by
  fun_induction closeComment afterStar cs generalizing body rest with
  | case1 => simp at h
  | case2 _ _ _ hc =>
    obtain ⟨rfl, rfl⟩ := by simpa using h
    simp_all
  | case3 _ _ _ _ ih =>
    obtain ⟨⟨b, r⟩, hr, e⟩ := Option.map_eq_some_iff.1 h
    obtain ⟨rfl, rfl⟩ := by simpa using e
    simp [← ih hr]

def nextPiece (lineStart : Bool) (c : Char) (cs : List Char) : Option (Piece × List Char) :=
  if isBlank c then some (.blank c, cs)
  else if c = '#' && lineStart then some (.directive (cs.takeWhile onLine), cs.dropWhile onLine)
  else if c = '/' && cs.head? = some '/' then
    some (.lineComment (cs.tail.takeWhile onLine), cs.tail.dropWhile onLine)
  else if c = '/' && cs.head? = some '*' then
    (closeComment false cs.tail).map fun (body, rest) => (.blockComment body, rest)
  else if startsName c then
    some (.word c (cs.takeWhile continuesName), cs.dropWhile continuesName)
  else if c.isDigit then
    some (.number c (cs.takeWhile continuesNumber), cs.dropWhile continuesNumber)
  else some (.mark c, cs)

theorem eq_cons_of_head? {d : Char} {cs : List Char} (h : cs.head? = some d) :
    cs = d :: cs.tail := by
  cases cs <;> simp_all

theorem nextPiece_append {lineStart : Bool} {c : Char} {cs rest : List Char} {piece : Piece}
    (h : nextPiece lineStart c cs = some (piece, rest)) : c :: cs = piece.text ++ rest := by
  unfold nextPiece at h
  split at h
  · obtain ⟨rfl, rfl⟩ := by simpa using h
    rfl
  split at h
  · obtain ⟨rfl, rfl⟩ := by simpa using h
    simp_all [Piece.text]
  split at h
  · rename_i hc
    obtain ⟨rfl, rfl⟩ := by simpa using h
    simp only [Bool.and_eq_true, decide_eq_true_eq] at hc
    rw [hc.1, eq_cons_of_head? hc.2]
    simp [Piece.text]
  split at h
  · rename_i hc
    obtain ⟨⟨b, r⟩, hr, e⟩ := Option.map_eq_some_iff.1 h
    obtain ⟨rfl, rfl⟩ := by simpa using e
    simp only [Bool.and_eq_true, decide_eq_true_eq] at hc
    rw [hc.1, eq_cons_of_head? hc.2]
    simp [Piece.text, closeComment_append hr]
  split at h
  · obtain ⟨rfl, rfl⟩ := by simpa using h
    simp [Piece.text]
  split at h
  · obtain ⟨rfl, rfl⟩ := by simpa using h
    simp [Piece.text]
  · obtain ⟨rfl, rfl⟩ := by simpa using h
    simp [Piece.text]

theorem Piece.text_ne_nil (piece : Piece) : piece.text ≠ [] := by
  cases piece <;> simp [Piece.text]

theorem nextPiece_length {lineStart : Bool} {c : Char} {cs rest : List Char} {piece : Piece}
    (h : nextPiece lineStart c cs = some (piece, rest)) : rest.length < (c :: cs).length := by
  rw [nextPiece_append h]
  have := List.length_pos_iff.2 piece.text_ne_nil
  simp; omega

def tokensFrom (lineStart : Bool) (p : Position) : List Char → Except Fault (List Token)
  | [] => .ok []
  | c :: cs =>
    match h : nextPiece lineStart c cs with
    | none => .error ⟨.unterminatedComment, p⟩
    | some (piece, rest) => do
      let tokens ← tokensFrom (piece.leavesLineStart lineStart) (p.after piece.text) rest
      return (piece.lexeme?.map (⟨·, p⟩)).toList ++ tokens
termination_by cs => cs.length
decreasing_by exact nextPiece_length h

def tokens (p : Position) (text : String) : Except Fault (List Token) :=
  tokensFrom true p text.toList

end Bindwright.Declaration
