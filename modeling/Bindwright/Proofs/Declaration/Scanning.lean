import Bindwright.Declaration.Token
import Mathlib.Tactic.SplitIfs

namespace Bindwright.Declaration

/-- Between the start of the text and `rest` stand just the lexemes. -/
inductive Scans : (lineStart : Bool) → List Char → List Lexeme → (restLineStart : Bool) →
    (rest : List Char) → Prop where
  | stop {lineStart : Bool} {rest : List Char} : Scans lineStart rest [] lineStart rest
  | step {lineStart restLineStart : Bool} {c : Char} {cs more rest : List Char} {piece : Piece}
      {lexemes : List Lexeme} (next : nextPiece lineStart c cs = some (piece, more))
      (scans : Scans (piece.leavesLineStart lineStart) more lexemes restLineStart rest) :
      Scans lineStart (c :: cs) (piece.lexeme?.toList ++ lexemes) restLineStart rest

variable {lineStart restLineStart : Bool} {c : Char} {cs more rest text : List Char} {piece : Piece}
  {lexemes : List Lexeme}

theorem tokensFrom_piece (next : nextPiece lineStart c cs = some (piece, more))
    (p : Text.Position) :
    tokensFrom lineStart p (c :: cs) = (do
      let tokens ← tokensFrom (piece.leavesLineStart lineStart) (p.after piece.text) more
      return (piece.lexeme?.map (⟨·, p⟩)).toList ++ tokens) := by
  rw [tokensFrom.eq_def]
  dsimp only
  split <;> simp_all

namespace Scans

theorem single (next : nextPiece lineStart c cs = some (piece, more)) :
    Scans lineStart (c :: cs) piece.lexeme?.toList (piece.leavesLineStart lineStart) more := by
  simpa using step next stop

theorem trans {middleLineStart : Bool} {first others : List Lexeme}
    (h : Scans lineStart text first middleLineStart more)
    (h' : Scans middleLineStart more others restLineStart rest) :
    Scans lineStart text (first ++ others) restLineStart rest := by
  induction h with
  | stop => exact h'
  | step next _ ih => simpa using step next (ih h')

theorem tokens_eq_ok (h : Scans lineStart text lexemes restLineStart []) (p : Text.Position) :
    ∃ ts, tokensFrom lineStart p text = .ok ts ∧ ts.map Token.lexeme = lexemes := by
  generalize hr : ([] : List Char) = rest at h
  induction h generalizing p with
  | stop => exact ⟨[], by rw [← hr, tokensFrom.eq_def], rfl⟩
  | @step _ _ _ _ _ _ piece _ next _ ih =>
    obtain ⟨ts, hts, rfl⟩ := ih (p.after piece.text) hr
    refine ⟨_, by rw [tokensFrom_piece next, hts]; rfl, ?_⟩
    cases piece.lexeme? <;> simp

theorem rest_eq_nil (h : Scans lineStart [] lexemes restLineStart rest) : rest = [] := by
  cases h
  rfl

end Scans

theorem closeComment_append_right {afterStar : Bool} {body : List Char} (x : List Char)
    (h : closeComment afterStar cs = some (body, rest)) :
    closeComment afterStar (cs ++ x) = some (body, rest ++ x) := by
  fun_induction closeComment afterStar cs generalizing body rest with
  | case1 => simp at h
  | case2 _ _ _ hc =>
    obtain ⟨rfl, rfl⟩ := by simpa using h
    simp_all [closeComment]
  | case3 _ _ _ hc ih =>
    obtain ⟨⟨b, r⟩, hr, e⟩ := Option.map_eq_some_iff.1 h
    obtain ⟨rfl, rfl⟩ := by simpa using e
    rw [List.cons_append, closeComment, if_neg hc, ih hr]
    rfl

theorem takeWhile_append_right {p : Char → Bool} (h : cs.dropWhile p ≠ []) (x : List Char) :
    (cs ++ x).takeWhile p = cs.takeWhile p := by
  rw [List.takeWhile_append, if_neg]
  intro hl
  have := congrArg List.length (List.takeWhile_append_dropWhile (p := p) (l := cs))
  rw [List.length_append] at this
  exact h (List.length_eq_zero_iff.1 (by omega))

theorem run_append_right {p : Char → Bool} {pieceOf : List Char → Piece} (hm : more ≠ [])
    (x : List Char) (h : some (pieceOf (cs.takeWhile p), cs.dropWhile p) = some (piece, more)) :
    some (pieceOf ((cs ++ x).takeWhile p), (cs ++ x).dropWhile p) = some (piece, more ++ x) := by
  obtain ⟨rfl, rfl⟩ := by simpa using h
  rw [takeWhile_append_right hm, List.dropWhile_append, if_neg (by simpa using hm)]

theorem nextPiece_append_right (hm : more ≠ []) (x : List Char)
    (h : nextPiece lineStart c cs = some (piece, more)) :
    nextPiece lineStart c (cs ++ x) = some (piece, more ++ x) := by
  have hcs : cs ≠ [] := by
    rintro rfl
    have := nextPiece_length h
    exact hm (List.length_eq_zero_iff.1 (by simpa using this))
  have head : (cs ++ x).head? = cs.head? := by
    cases cs with
    | nil => contradiction
    | cons d cs => rfl
  unfold nextPiece at h ⊢
  rw [head, List.tail_append_of_ne_nil hcs]
  split_ifs at h ⊢ with blank directive line block word number
  · obtain ⟨rfl, rfl⟩ := by simpa using h
    rfl
  · exact run_append_right hm x h
  · exact run_append_right hm x h
  · obtain ⟨⟨body, rest⟩, hc, e⟩ := Option.map_eq_some_iff.1 h
    obtain ⟨rfl, rfl⟩ := by simpa using e
    rw [closeComment_append_right x hc]
    rfl
  · exact run_append_right hm x h
  · exact run_append_right hm x h
  · obtain ⟨rfl, rfl⟩ := by simpa using h
    rfl

theorem Scans.append_right (hr : rest ≠ []) (x : List Char)
    (h : Scans lineStart text lexemes restLineStart rest) :
    Scans lineStart (text ++ x) lexemes restLineStart (rest ++ x) := by
  induction h with
  | stop => exact stop
  | step next scans ih =>
    refine step (nextPiece_append_right ?_ x next) (ih hr)
    rintro rfl
    exact hr scans.rest_eq_nil

def isName : List Char → Bool
  | [] => false
  | c :: cs => startsName c && cs.all continuesName

def Apart (text : List Char) : Prop := ∀ c ∈ text.head?, continuesName c = false

theorem apart_nil : Apart [] := by simp [Apart]

theorem apart_cons (h : continuesName c = false) : Apart (c :: cs) := by simpa [Apart] using h

theorem Apart.append (h : Apart text) (h' : Apart rest) : Apart (text ++ rest) := by
  cases text with
  | nil => exact h'
  | cons c cs => exact h

theorem run_append {p : Char → Bool} (all : ∀ c ∈ cs, p c)
    (stops : ∀ c ∈ rest.head?, p c = false) :
    (cs ++ rest).takeWhile p = cs ∧ (cs ++ rest).dropWhile p = rest := by
  rw [List.takeWhile_append_of_pos all, List.dropWhile_append_of_pos all]
  cases rest with
  | nil => simp
  | cons c rest => simp [stops c rfl]

theorem not_isBlank_of_startsName (h : startsName c) : Text.isBlank c = false := by
  have bounds : 65 ≤ c.toNat ∧ c.toNat ≤ 122 := by
    have letters : startsName c = ((decide (c.val ≥ 65 ∧ c.val ≤ 90) ||
        decide (c.val ≥ 97) && decide (c.val ≤ 122)) || decide (c = '_')) := rfl
    simp only [letters, Bool.or_eq_true, Bool.and_eq_true, decide_eq_true_eq, ge_iff_le,
      UInt32.le_iff_toNat_le] at h
    rcases h with (h | h) | rfl
    · exact ⟨h.1, Nat.le_trans h.2 (by decide)⟩
    · exact ⟨Nat.le_trans (by decide) h.1, h.2⟩
    · decide
  simp [Text.isBlank]
  omega

theorem nextPiece_of_startsName (h : startsName c) :
    nextPiece lineStart c cs =
      some (.word c (cs.takeWhile continuesName), cs.dropWhile continuesName) := by
  have notHash : c ≠ '#' := by rintro rfl; revert h; decide
  have notSlash : c ≠ '/' := by rintro rfl; revert h; decide
  simp [nextPiece, not_isBlank_of_startsName h, notHash, notSlash, h]

def punctuation : List Char := ['*', '(', ')', '[', ']', '\x7b', '\x7d', ',', ';']

theorem nextPiece_of_mem_punctuation (h : c ∈ punctuation) :
    nextPiece lineStart c cs = some (.mark c, cs) := by
  simp only [punctuation, List.mem_cons, List.not_mem_nil, or_false] at h
  rcases h with rfl | rfl | rfl | rfl | rfl | rfl | rfl | rfl | rfl <;> rfl

theorem apart_of_mem_punctuation (h : c ∈ punctuation) : Apart (c :: cs) := by
  have delimit : punctuation.all (!continuesName ·) = true := by decide
  exact apart_cons (by simpa using List.all_eq_true.1 delimit c h)

theorem scans_name (h : isName text) (hr : Apart rest) :
    Scans lineStart (text ++ rest) [.word (String.ofList text)] false rest := by
  cases text with
  | nil => cases h
  | cons c cs =>
    obtain ⟨hc, hcs⟩ := Bool.and_eq_true_iff.1 h
    obtain ⟨taken, left⟩ := run_append (List.all_eq_true.1 hcs) hr
    have next : nextPiece lineStart c (cs ++ rest) = some (.word c cs, rest) := by
      rw [nextPiece_of_startsName hc, taken, left]
    exact Scans.single next

/-- In the middle of a line the text reads as the lexemes, unless a name at its end goes on. -/
def Spells (text : List Char) (lexemes : List Lexeme) : Prop :=
  ∀ rest, Apart rest → Scans false (text ++ rest) lexemes false rest

namespace Spells

variable {others : List Lexeme}

theorem nil : Spells [] [] := fun _ _ => .stop

theorem append (h : Spells text lexemes) (h' : Spells more others) (apart : Apart more) :
    Spells (text ++ more) (lexemes ++ others) := by
  intro rest hr
  rw [List.append_assoc]
  exact (h _ (apart.append hr)).trans (h' rest hr)

theorem blank (h : Spells text lexemes) : Spells (' ' :: text) lexemes := by
  intro rest hr
  have next : nextPiece false ' ' (text ++ rest) = some (.blank ' ', text ++ rest) := rfl
  exact .step next (h rest hr)

theorem mark (hc : c ∈ punctuation) (h : Spells text lexemes) :
    Spells (c :: text) (.mark c :: lexemes) :=
  fun rest hr => .step (nextPiece_of_mem_punctuation hc) (h rest hr)

theorem word (h : isName text) : Spells text [.word (String.ofList text)] :=
  fun _ hr => scans_name h hr

theorem tokens_eq_ok {first whole : String} (hn : isName first.toList) (h : Spells more lexemes)
    (apart : Apart more) (hw : whole.toList = first.toList ++ more) (p : Text.Position) :
    ∃ ts, tokens p whole = .ok ts ∧ ts.map Token.lexeme = .word first :: lexemes := by
  have name : Scans true (first.toList ++ more) [.word first] false more := by
    simpa using scans_name hn apart
  have scans := name.trans (by simpa using h [] apart_nil)
  rw [tokens, hw]
  exact scans.tokens_eq_ok p

end Spells

end Bindwright.Declaration
