import Bindwright.Proofs.Declaration.Positions
import Bindwright.Proofs.Text.Position
import Mathlib.Data.List.TakeWhile

/-!
# Texts cut into pieces

What a text is cut into is said here of each piece by what stands before and behind it, and not by
the scanner's steps. The scanner's tokens are those of the one such cut (`tokens_cut`).
-/

namespace Bindwright.Declaration

open Text

def Run (p : Char → Bool) (cs rest : List Char) : Prop :=
  (∀ c ∈ cs, p c) ∧ ∀ c ∈ rest.head?, p c = false

/-- `cs` ends with the marks that close a comment, and holds them nowhere else. -/
def Closes (cs : List Char) : Prop :=
  ∃ inner, cs = inner ++ ['*', '/'] ∧ ¬['*', '/'] <:+: inner ++ ['*']

def BlankLine (before : List Char) : Prop := ∀ c ∈ lastLine before, isBlank c

instance (before : List Char) : Decidable (BlankLine before) :=
  inferInstanceAs (Decidable (∀ c ∈ lastLine before, isBlank c))

/-- The piece may stand between `before` and `rest`. -/
inductive Fits (before rest : List Char) : Piece → Prop where
  | word {c : Char} {cs : List Char} (first : startsName c) (run : Run continuesName cs rest) :
      Fits before rest (.word c cs)
  | number {c : Char} {cs : List Char} (first : c.isDigit) (run : Run continuesNumber cs rest) :
      Fits before rest (.number c cs)
  | mark {c : Char} (visible : isBlank c = false) (noName : startsName c = false)
      (noNumber : c.isDigit = false)
      (alone : c = '/' → rest.head? ≠ some '/' ∧ rest.head? ≠ some '*') : Fits before rest (.mark c)
  | blank {c : Char} (blank : isBlank c) : Fits before rest (.blank c)
  | lineComment {cs : List Char} (run : Run onLine cs rest) : Fits before rest (.lineComment cs)
  | blockComment {cs : List Char} (closes : Closes cs) : Fits before rest (.blockComment cs)
  | directive {cs : List Char} (first : BlankLine before) (run : Run onLine cs rest) :
      Fits before rest (.directive cs)

structure Taken (before rest : List Char) (piece : Piece) : Prop where
  fits : Fits before rest piece
  inside : piece = .mark '#' → ¬BlankLine before

/-- What follows `before` is cut into pieces up to `rest`, each of them allowed where it stands. -/
inductive Cuts (allowed : (before rest : List Char) → Piece → Prop) :
    (before text : List Char) → List Piece → (rest : List Char) → Prop where
  | stop {before rest : List Char} : Cuts allowed before rest [] rest
  | step {before more rest : List Char} {piece : Piece} {pieces : List Piece}
      (here : allowed before more piece)
      (cuts : Cuts allowed (before ++ piece.text) more pieces rest) :
      Cuts allowed before (piece.text ++ more) (piece :: pieces) rest

/-- The tokens among the pieces of a text that starts at `p`, each where it starts. -/
def tokensAt (p : Position) : List Piece → List Token
  | [] => []
  | piece :: pieces =>
    (piece.lexeme?.map (⟨·, p⟩)).toList ++ tokensAt (p.after piece.text) pieces

variable {allowed : List Char → List Char → Piece → Prop} {lineStart : Bool} {p : Position}
  {before cs body more rest : List Char} {c : Char} {piece : Piece} {pieces : List Piece}

/-! ## Runs and comments -/

theorem run_iff {p : Char → Bool} :
    cs = more ++ rest ∧ Run p more rest ↔ cs.takeWhile p = more ∧ cs.dropWhile p = rest := by
  constructor
  · rintro ⟨rfl, all, stops⟩
    exact run_append all stops
  · rintro ⟨rfl, rfl⟩
    refine ⟨List.takeWhile_append_dropWhile.symm, fun c => List.mem_takeWhile_imp, ?_⟩
    intro c first
    have stops := List.head?_dropWhile_not p cs
    rw [first] at stops
    exact stops

theorem closed_cons :
    ['*', '/'] <:+: c :: cs ↔ c = '*' ∧ cs.head? = some '/' ∨ ['*', '/'] <:+: cs := by
  have slash : ['/'] <+: cs ↔ cs.head? = some '/' := by
    cases cs <;> simp [eq_comm]
  rw [List.infix_cons_iff, List.cons_prefix_cons, slash, eq_comm]

theorem closes_cons :
    Closes (c :: cs) ↔
      c = '*' ∧ cs = ['/'] ∨ ¬(c = '*' ∧ cs.head? = some '/') ∧ Closes cs := by
  have head (inner : List Char) : (inner ++ ['*', '/']).head? = (inner ++ ['*']).head? := by
    cases inner <;> rfl
  constructor
  · rintro ⟨inner, same, first⟩
    cases inner with
    | nil =>
      cases same
      exact .inl ⟨rfl, rfl⟩
    | cons d inner =>
      cases same
      rw [List.cons_append, closed_cons, not_or, ← head] at first
      exact .inr ⟨first.1, inner, rfl, first.2⟩
  · rintro (⟨rfl, rfl⟩ | ⟨apart, inner, rfl, first⟩)
    · exact ⟨[], rfl, by decide⟩
    · refine ⟨c :: inner, rfl, ?_⟩
      rw [List.cons_append, closed_cons, not_or, ← head]
      exact ⟨apart, first⟩

def starBefore (afterStar : Bool) : List Char := if afterStar then ['*'] else []

theorem Closes.exists_cons {afterStar : Bool} (closes : Closes (starBefore afterStar ++ body)) :
    ∃ c cs, body = c :: cs := by
  refine List.exists_cons_of_ne_nil ?_
  rintro rfl
  obtain ⟨inner, same, -⟩ := closes
  have length := congrArg List.length same
  cases afterStar <;> simp [starBefore] at length

theorem closes_starBefore_cons {afterStar : Bool} (inside : ¬(afterStar = true ∧ c = '/')) :
    Closes (starBefore afterStar ++ c :: body) ↔ Closes (starBefore (c = '*') ++ body) := by
  have later : Closes (starBefore afterStar ++ c :: body) ↔ Closes (c :: body) := by
    cases afterStar with
    | false => rfl
    | true =>
      simp only [true_and] at inside
      simp [starBefore, closes_cons, inside]
  rw [later]
  by_cases star : c = '*'
  · simp [starBefore, star]
  · simp [starBefore, closes_cons, star]

theorem closeComment_eq_some_iff {afterStar : Bool} :
    closeComment afterStar cs = some (body, rest) ↔
      cs = body ++ rest ∧ Closes (starBefore afterStar ++ body) := by
  -- `starBefore` puts back the star that was read before `cs`.
  fun_induction closeComment afterStar cs generalizing body with
  | case1 afterStar =>
    constructor
    · intro closed
      cases closed
    · rintro ⟨same, closes⟩
      obtain ⟨c, cs, rfl⟩ := closes.exists_cons
      cases same
  | case2 afterStar c cs ends =>
    obtain ⟨rfl, rfl⟩ := by simpa using ends
    constructor
    · intro same
      cases same
      exact ⟨rfl, [], rfl, by decide⟩
    · rintro ⟨same, closes⟩
      obtain ⟨d, body, rfl⟩ := closes.exists_cons
      cases same
      obtain rfl : body = [] := by simpa [starBefore, closes_cons] using closes
      rfl
  | case3 afterStar c cs inside ih =>
    have inside : ¬(afterStar = true ∧ c = '/') := by simpa using inside
    constructor
    · intro closed
      obtain ⟨⟨body, rest⟩, closed, same⟩ := Option.map_eq_some_iff.1 closed
      cases same
      obtain ⟨rfl, closes⟩ := ih.1 closed
      exact ⟨rfl, (closes_starBefore_cons inside).2 closes⟩
    · rintro ⟨same, closes⟩
      obtain ⟨d, body, rfl⟩ := closes.exists_cons
      cases same
      rw [closes_starBefore_cons inside] at closes
      exact Option.map_eq_some_iff.2 ⟨_, ih.2 ⟨rfl, closes⟩, rfl⟩

/-! ## The piece at the start -/

theorem plain_of_isDigit (digit : c.isDigit) :
    isBlank c = false ∧ startsName c = false ∧ c ≠ '#' ∧ c ≠ '/' := by
  have bounds : 48 ≤ c.toNat ∧ c.toNat ≤ 57 := by
    simp only [Char.isDigit, Bool.and_eq_true, decide_eq_true_eq, ge_iff_le,
      UInt32.le_iff_toNat_le] at digit
    exact digit
  have each : ∀ n ≤ 57, 48 ≤ n → isBlank (Char.ofNat n) = false ∧
      startsName (Char.ofNat n) = false ∧ Char.ofNat n ≠ '#' ∧ Char.ofNat n ≠ '/' := by
    decide +kernel
  have plain := each c.toNat bounds.2 bounds.1
  rwa [Char.ofNat_toNat] at plain

def Tells (lineStart : Bool) (before rest : List Char) : Prop :=
  ∀ c ∈ rest.head?, c ≠ '\n' → (lineStart = true ↔ BlankLine before)

theorem taken_of_nextPiece (tells : Tells lineStart before (c :: cs))
    (next : nextPiece lineStart c cs = some (piece, more)) : Taken before more piece := by
  have flag : c ≠ '\n' → (lineStart = true ↔ BlankLine before) := tells c rfl
  unfold nextPiece at next
  split_ifs at next with blank directive line block word number
  · cases next
    exact ⟨.blank blank, by simp⟩
  · obtain ⟨rfl, rfl⟩ := by simpa using directive
    cases next
    exact ⟨.directive ((flag (by decide)).1 rfl) (run_iff.2 ⟨rfl, rfl⟩).2, by simp⟩
  · cases next
    exact ⟨.lineComment (run_iff.2 ⟨rfl, rfl⟩).2, by simp⟩
  · obtain ⟨⟨body, rest⟩, closed, same⟩ := Option.map_eq_some_iff.1 next
    cases same
    exact ⟨.blockComment (closeComment_eq_some_iff.1 closed).2, by simp⟩
  · cases next
    exact ⟨.word word (run_iff.2 ⟨rfl, rfl⟩).2, by simp⟩
  · cases next
    exact ⟨.number number (run_iff.2 ⟨rfl, rfl⟩).2, by simp⟩
  · cases next
    refine ⟨.mark (by simpa using blank) (by simpa using word) (by simpa using number) ?_, ?_⟩
    · rintro rfl
      exact ⟨by simpa using line, by simpa using block⟩
    · intro same first
      cases same
      exact directive (by simpa using (flag (by decide)).2 first)

theorem nextPiece_of_taken (tells : Tells lineStart before (c :: cs))
    (text : c :: cs = piece.text ++ more) (taken : Taken before more piece) :
    nextPiece lineStart c cs = some (piece, more) := by
  have flag : c ≠ '\n' → (lineStart = true ↔ BlankLine before) := tells c rfl
  have visible : isBlank '/' = false ∧ isBlank '#' = false := by decide
  obtain ⟨fits, inside⟩ := taken
  -- The scanner tries the kinds in turn; in each case the tests before the right one fail.
  cases fits with
  | word first run =>
    cases text
    obtain ⟨whole, left⟩ := run_iff.1 ⟨rfl, run⟩
    simp [nextPiece_of_startsName first, whole, left]
  | number first run =>
    cases text
    obtain ⟨whole, left⟩ := run_iff.1 ⟨rfl, run⟩
    obtain ⟨visible, noName, noHash, noSlash⟩ := plain_of_isDigit first
    simp [nextPiece, visible, noName, noHash, noSlash, first, whole, left]
  | mark visible noName noNumber alone =>
    cases text
    have noDirective : ¬(c = '#' ∧ lineStart = true) := by
      rintro ⟨rfl, first⟩
      exact inside rfl ((flag (by decide)).1 first)
    have noLine : ¬(c = '/' ∧ more.head? = some '/') := fun slashes => (alone slashes.1).1 slashes.2
    have noBlock : ¬(c = '/' ∧ more.head? = some '*') := fun opens => (alone opens.1).2 opens.2
    simp [nextPiece, visible, noName, noNumber, noDirective, noLine, noBlock]
  | blank blank =>
    cases text
    exact if_pos blank
  | lineComment run =>
    cases text
    obtain ⟨whole, left⟩ := run_iff.1 ⟨rfl, run⟩
    simp [nextPiece, visible, whole, left]
  | @blockComment body closes =>
    cases text
    have closed : closeComment false (body ++ more) = some (body, more) :=
      closeComment_eq_some_iff.2 ⟨rfl, closes⟩
    simp [nextPiece, visible, closed]
  | directive first run =>
    cases text
    obtain ⟨whole, left⟩ := run_iff.1 ⟨rfl, run⟩
    simp [nextPiece, visible, (flag (by decide)).2 first, whole, left]

theorem blankLine_concat :
    BlankLine (before ++ [c]) ↔ c = '\n' ∨ BlankLine before ∧ isBlank c := by
  by_cases feed : c = '\n'
  · simp [BlankLine, lastLine_concat, feed]
  · simp [BlankLine, lastLine_concat, feed, or_imp, forall_and]

theorem not_blankLine_append (visible : isBlank c = false) (plain : '\n' ∉ cs) :
    ¬BlankLine (before ++ c :: cs) := by
  have feed : '\n' ≠ c := by
    rintro rfl
    cases visible
  intro blank
  rw [BlankLine, lastLine_append (List.not_mem_cons_of_ne_of_not_mem feed plain)] at blank
  exact absurd (blank c (by simp)) (by simp [visible])

theorem Taken.tells (tells : Tells lineStart before (piece.text ++ more))
    (taken : Taken before more piece) :
    Tells (piece.leavesLineStart lineStart) (before ++ piece.text) more := by
  intro d next visible
  obtain ⟨fits, -⟩ := taken
  -- Comments and directives run to the end of the line, where nothing visible follows.
  have ended {cs : List Char} (run : Run onLine cs more) : False := by
    simpa [onLine, visible] using run.2 d next
  cases fits with
  | @word c cs first run =>
    have plain : '\n' ∉ cs := fun feed => absurd (run.1 '\n' feed) (by decide)
    exact iff_of_false Bool.false_ne_true
      (not_blankLine_append (not_isBlank_of_startsName first) plain)
  | @number c cs first run =>
    have plain : '\n' ∉ cs := fun feed => absurd (run.1 '\n' feed) (by decide)
    exact iff_of_false Bool.false_ne_true
      (not_blankLine_append (plain_of_isDigit first).1 plain)
  | mark other _ _ _ =>
    exact iff_of_false Bool.false_ne_true (not_blankLine_append other List.not_mem_nil)
  | @blank c blank =>
    have flag : c ≠ '\n' → (lineStart = true ↔ BlankLine before) := tells c rfl
    rw [Piece.text, blankLine_concat, Piece.leavesLineStart, Bool.or_eq_true, decide_eq_true_eq,
      and_iff_left blank, or_congr_right' flag]
  | lineComment run => exact (ended run).elim
  | @blockComment body closes =>
    obtain ⟨inner, rfl, -⟩ := closes
    have last : before ++ '/' :: '*' :: (inner ++ ['*', '/']) =
        before ++ '/' :: '*' :: inner ++ ['*'] ++ ['/'] := by simp
    rw [Piece.text, last, blankLine_concat]
    exact iff_of_false Bool.false_ne_true (by simp [show isBlank '/' = false from rfl])
  | directive first run => exact (ended run).elim

/-! ## Cuts -/

theorem cuts_iff {text : List Char} : Cuts allowed before text pieces rest ↔
    pieces = [] ∧ text = rest ∨
    ∃ piece more others, text = piece.text ++ more ∧ allowed before more piece ∧
      pieces = piece :: others ∧ Cuts allowed (before ++ piece.text) more others rest := by
  constructor
  · intro cuts
    cases cuts with
    | stop => exact .inl ⟨rfl, rfl⟩
    | step here cuts => exact .inr ⟨_, _, _, rfl, here, rfl, cuts⟩
  · rintro (⟨rfl, rfl⟩ | ⟨piece, more, others, rfl, here, rfl, cuts⟩)
    · exact .stop
    · exact .step here cuts

theorem cuts_nil_iff : Cuts allowed before [] pieces rest ↔ pieces = [] ∧ rest = [] := by
  rw [cuts_iff, or_iff_left, @eq_comm _ [] rest]
  rintro ⟨piece, more, others, text, -⟩
  exact piece.text_ne_nil (List.append_eq_nil_iff.1 text.symm).1

theorem cuts_taken_iff (tells : Tells lineStart before (c :: cs))
    (next : nextPiece lineStart c cs = some (piece, more)) :
    Cuts Taken before (c :: cs) pieces rest ↔ pieces = [] ∧ c :: cs = rest ∨
      ∃ others, pieces = piece :: others ∧ Cuts Taken (before ++ piece.text) more others rest := by
  rw [cuts_iff]
  refine or_congr_right ⟨?_, ?_⟩
  · rintro ⟨piece', more', others, text, taken, rfl, cuts⟩
    rw [nextPiece_of_taken tells text taken] at next
    cases next
    exact ⟨others, rfl, cuts⟩
  · rintro ⟨others, rfl, cuts⟩
    exact ⟨piece, more, others, nextPiece_append next, taken_of_nextPiece tells next, rfl, cuts⟩

theorem cuts_stuck_iff (tells : Tells lineStart before (c :: cs))
    (next : nextPiece lineStart c cs = none) :
    Cuts Taken before (c :: cs) pieces rest ↔ pieces = [] ∧ c :: cs = rest := by
  rw [cuts_iff, or_iff_left]
  rintro ⟨piece, more, others, text, taken, -⟩
  rw [nextPiece_of_taken tells text taken] at next
  cases next

theorem nextPiece_eq_none_iff : nextPiece lineStart c cs = none ↔
    ∃ body, c :: cs = '/' :: '*' :: body ∧ ¬['*', '/'] <:+: body := by
  constructor
  · exact opens_of_nextPiece
  · rintro ⟨body, text, closed⟩
    cases text
    have closes : closeComment false body = none := by
      rw [Option.eq_none_iff_forall_ne_some]
      rintro ⟨front, rest⟩ closes
      obtain ⟨rfl, inner, rfl, -⟩ := closeComment_eq_some_iff.1 closes
      exact closed ⟨inner, rest, by simp⟩
    have visible : isBlank '/' = false := rfl
    simp [nextPiece, visible, closes]

theorem Tells.next (tells : Tells lineStart before (c :: cs))
    (next : nextPiece lineStart c cs = some (piece, more)) :
    Tells (piece.leavesLineStart lineStart) (before ++ piece.text) more := by
  have taken := taken_of_nextPiece tells next
  rw [nextPiece_append next] at tells
  exact taken.tells tells

theorem tokensFrom_eq_ok_iff {ts : List Token} (tells : Tells lineStart before cs) :
    tokensFrom lineStart p cs = .ok ts ↔ ∃ ps, Cuts Taken before cs ps [] ∧ tokensAt p ps = ts := by
  fun_induction tokensFrom lineStart p cs generalizing before ts with
  | case1 lineStart p => simp [cuts_nil_iff, tokensAt]
  | case2 lineStart p c cs next => simp [cuts_stuck_iff tells next]
  | case3 lineStart p c cs piece more next ih =>
    have ih {others} := @ih (before ++ piece.text) others (tells.next next)
    constructor
    · intro scanned
      obtain ⟨others, later, joined⟩ := Traversal.bind_eq_ok_iff.1 scanned
      cases joined
      obtain ⟨ps, cuts, rfl⟩ := ih.1 later
      exact ⟨piece :: ps, (cuts_taken_iff tells next).2 (.inr ⟨ps, rfl, cuts⟩), rfl⟩
    · rintro ⟨ps, cuts, rfl⟩
      rcases (cuts_taken_iff tells next).1 cuts with ⟨-, ended⟩ | ⟨ps, rfl, later⟩
      · cases ended
      · exact Traversal.bind_eq_ok_iff.2 ⟨_, ih.2 ⟨ps, later, rfl⟩, rfl⟩

theorem tokensFrom_eq_error_iff {f : Fault} (tells : Tells lineStart before cs) :
    tokensFrom lineStart p cs = .error f ↔ ∃ ps body, Cuts Taken before cs ps ('/' :: '*' :: body) ∧
      ¬['*', '/'] <:+: body ∧ f = ⟨.unterminatedComment, p.after (ps.flatMap Piece.text)⟩ := by
  fun_induction tokensFrom lineStart p cs generalizing before with
  | case1 lineStart p => simp [cuts_nil_iff]
  | case2 lineStart p c cs next =>
    obtain ⟨body, text, closed⟩ := nextPiece_eq_none_iff.1 next
    constructor
    · intro refused
      cases refused
      exact ⟨[], body, (cuts_stuck_iff tells next).2 ⟨rfl, text⟩, closed, rfl⟩
    · rintro ⟨ps, body, cuts, closed, rfl⟩
      obtain ⟨rfl, -⟩ := (cuts_stuck_iff tells next).1 cuts
      rfl
  | case3 lineStart p c cs piece more next ih =>
    have ih := @ih (before ++ piece.text) (tells.next next)
    constructor
    · intro refused
      rcases Traversal.bind_eq_error_iff.1 refused with refused | ⟨_, _, done⟩
      · obtain ⟨ps, body, cuts, closed, rfl⟩ := ih.1 refused
        refine ⟨piece :: ps, body, (cuts_taken_iff tells next).2 (.inr ⟨ps, rfl, cuts⟩), closed, ?_⟩
        rw [List.flatMap_cons, Position.after_append]
      · cases done
    · rintro ⟨ps, body, cuts, closed, rfl⟩
      rcases (cuts_taken_iff tells next).1 cuts with ⟨-, ended⟩ | ⟨ps, rfl, later⟩
      · rw [nextPiece_eq_none_iff.2 ⟨body, ended, closed⟩] at next
        cases next
      · refine Traversal.bind_eq_error_iff.2 (.inl (ih.2 ⟨ps, body, later, closed, ?_⟩))
        rw [List.flatMap_cons, Position.after_append]

/-! ## One cut for the tokens -/

theorem after_of_mem_tokensAt {t : Token} (member : t ∈ tokensAt p pieces) :
    ∃ passed, t.position = p.after passed := by
  induction pieces generalizing p with
  | nil => cases member
  | cons piece pieces ih =>
    rcases List.mem_append.1 member with here | later
    · obtain ⟨l, -, rfl⟩ := Option.map_eq_some_iff.1 (Option.mem_toList.1 here)
      exact ⟨[], rfl⟩
    · obtain ⟨passed, place⟩ := ih later
      exact ⟨piece.text ++ passed, by rw [place, Position.after_append]⟩

theorem tokensAt_directive_ne_mark {others : List Piece} :
    tokensAt p (.directive body :: pieces) ≠ tokensAt p (.mark c :: others) := by
  intro same
  have mark : (⟨.mark c, p⟩ : Token) ∈ tokensAt (p.after ('#' :: body)) pieces := by
    have first : (⟨.mark c, p⟩ : Token) ∈ tokensAt p (.mark c :: others) := List.mem_cons_self
    rw [← same] at first
    exact first
  obtain ⟨passed, place⟩ := after_of_mem_tokensAt mark
  rw [← Position.after_append] at place
  exact p.after_ne (List.cons_ne_nil '#' (body ++ passed)) place.symm

theorem tells_decide : Tells (decide (BlankLine before)) before rest :=
  fun _ _ _ => decide_eq_true_iff

theorem Taken.unique {piece' : Piece} {more' : List Char} (taken : Taken before more piece)
    (taken' : Taken before more' piece') (same : piece.text ++ more = piece'.text ++ more') :
    piece = piece' ∧ more = more' := by
  obtain ⟨c, cs, text⟩ := List.exists_cons_of_ne_nil piece.text_ne_nil
  rw [text, List.cons_append] at same
  have next := nextPiece_of_taken tells_decide (by rw [text, List.cons_append]) taken
  rw [nextPiece_of_taken tells_decide same taken'] at next
  cases next
  exact ⟨rfl, rfl⟩

theorem Taken.eq_directive (taken : Taken before more piece) (first : BlankLine before)
    (text : piece.text ++ more = '#' :: cs) : ∃ body, piece = .directive body := by
  have directive : Taken before (cs.dropWhile onLine) (.directive (cs.takeWhile onLine)) :=
    ⟨.directive first (run_iff.2 ⟨rfl, rfl⟩).2, by simp⟩
  refine ⟨_, (taken.unique directive ?_).1⟩
  rw [text, Piece.text, List.cons_append, List.takeWhile_append_dropWhile]

theorem eq_of_tokensAt_eq {ps qs : List Piece} (taken : Cuts Taken before cs ps [])
    (cuts : Cuts Fits before cs qs []) (same : tokensAt p ps = tokensAt p qs) : ps = qs := by
  generalize ended : ([] : List Char) = rest at taken
  induction taken generalizing qs p with
  | stop =>
    rw [← ended, cuts_nil_iff] at cuts
    exact cuts.1.symm
  | @step before more rest piece ps here taken ih =>
    rcases cuts_iff.1 cuts with ⟨-, done⟩ | ⟨q, more', qs, text, fits, rfl, later⟩
    · exact absurd (List.append_eq_nil_iff.1 done).1 piece.text_ne_nil
    · by_cases inside : q = .mark '#' → ¬BlankLine before
      · obtain ⟨rfl, rfl⟩ := here.unique ⟨fits, inside⟩ text
        rw [ih later (List.append_cancel_left same) ended]
      · obtain ⟨rfl, first⟩ := Classical.not_imp.1 inside
        obtain ⟨body, rfl⟩ := here.eq_directive (Classical.not_not.1 first) text
        exact absurd same tokensAt_directive_ne_mark

theorem Cuts.mono {others : List Char → List Char → Piece → Prop}
    (cuts : Cuts allowed before cs pieces rest)
    (mono : ∀ before rest piece, allowed before rest piece → others before rest piece) :
    Cuts others before cs pieces rest := by
  induction cuts with
  | stop => exact .stop
  | step here _ ih => exact .step (mono _ _ _ here) ih

theorem tells_start : Tells true [] cs :=
  fun _ _ _ => iff_of_true rfl (by simp [BlankLine, lastLine])

/-- A `#` that begins its line could also be cut off as a mark, but the tokens then differ. -/
theorem tokens_cut (p : Position) (text : String) :
    (∀ f, tokens p text = .error f ↔ ∃ ps body,
      Cuts Taken [] text.toList ps ('/' :: '*' :: body) ∧ ¬['*', '/'] <:+: body ∧
      f = ⟨.unterminatedComment, p.after (ps.flatMap Piece.text)⟩) ∧
    (∀ ts, tokens p text = .ok ts ↔
      ∃ ps, Cuts Taken [] text.toList ps [] ∧ tokensAt p ps = ts) ∧
    ∀ ts, tokens p text = .ok ts →
      ∃! ps, Cuts Fits [] text.toList ps [] ∧ tokensAt p ps = ts := by
  refine ⟨fun f => tokensFrom_eq_error_iff tells_start, fun ts => tokensFrom_eq_ok_iff tells_start,
    fun ts scanned => ?_⟩
  obtain ⟨ps, cuts, rfl⟩ := (tokensFrom_eq_ok_iff tells_start).1 scanned
  refine ⟨ps, ⟨cuts.mono fun _ _ _ => Taken.fits, rfl⟩, ?_⟩
  rintro qs ⟨others, same⟩
  exact (eq_of_tokensAt_eq cuts others same.symm).symm

theorem tokens_cut_two_hashes :
    tokens ⟨1, 0⟩ "#x\na/*/ */#" = .ok [⟨.word "a", ⟨2, 0⟩⟩, ⟨.mark '#', ⟨2, 7⟩⟩] ∧
    ∃! ps, Cuts Fits [] "#x\na/*/ */#".toList ps [] ∧
      tokensAt ⟨1, 0⟩ ps = [⟨.word "a", ⟨2, 0⟩⟩, ⟨.mark '#', ⟨2, 7⟩⟩] := by
  have scanned : tokens ⟨1, 0⟩ "#x\na/*/ */#" =
      .ok [⟨.word "a", ⟨2, 0⟩⟩, ⟨.mark '#', ⟨2, 7⟩⟩] := by
    decide +kernel
  exact ⟨scanned, (tokens_cut ⟨1, 0⟩ "#x\na/*/ */#").2.2 _ scanned⟩

end Bindwright.Declaration
