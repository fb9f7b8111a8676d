import Bindwright.Declaration.Snippet
import Bindwright.Proofs.Declaration.Declarators
import Bindwright.Proofs.Declaration.Scanning
import Bindwright.Proofs.Declaration.Sequence

/-!
# Where members and faults stand

Positions are counted on from a block's place in the documentation, over blanks, comments and
tokens. The documentation itself is cut into lines here (`charAt?`), and holds at each position the
character that was counted to it.
-/

namespace Bindwright

namespace Text

/-- The character at a position of a text. -/
def charAt? (cs : List Char) (p : Position) : Option Char :=
  match p.line with
  | 0 => none
  | n + 1 => ((splitAll '\n' cs)[n]?).bind (·[p.column]?)

theorem Position.exists_row (p : Position) (before rest : List Char) {c : Char}
    (visible : c ≠ '\n') :
    ∃ i j, ((splitAll '\n' (before ++ c :: rest))[i]?).bind (·[j]?) = some c ∧
      p.after before = ⟨p.line + i, if i = 0 then p.column + j else j⟩ := by
  induction before generalizing p with
  | nil =>
    obtain ⟨row, rows, split⟩ := exists_splitAll '\n' rest
    refine ⟨0, 0, ?_, rfl⟩
    rw [List.nil_append, splitAll_cons split, if_neg visible]
    rfl
  | cons d before ih =>
    obtain ⟨row, rows, split⟩ := exists_splitAll '\n' (before ++ c :: rest)
    obtain ⟨i, j, found, place⟩ := ih (p.advance d)
    rw [List.cons_append, splitAll_cons split, after_cons, place]
    rw [split] at found
    by_cases feed : d = '\n'
    · refine ⟨i + 1, j, ?_, ?_⟩
      · rw [if_pos feed]
        exact found
      · -- A line feed begins a row, so what was row `i` is row `i + 1` now.
        simp only [advance, if_pos feed]
        grind
    · cases i with
      | zero =>
        refine ⟨0, j + 1, ?_, ?_⟩
        · rw [if_neg feed]
          exact found
        · simp only [advance, if_neg feed]
          grind
      | succ i =>
        refine ⟨i + 1, j, ?_, ?_⟩
        · rw [if_neg feed]
          exact found
        · simp only [advance, if_neg feed]
          grind

theorem charAt?_after (before rest : List Char) {c : Char} (visible : c ≠ '\n') :
    charAt? (before ++ c :: rest) (Position.start.after before) = some c := by
  obtain ⟨i, j, found, place⟩ := Position.start.exists_row before rest visible
  have column : (if i = 0 then 0 + j else j) = j := by
    split <;> omega
  rw [place]
  simp only [Position.start, charAt?, Nat.add_comm 1 i, column]
  exact found

end Text

namespace Declaration

open Text

variable {lineStart : Bool} {p : Position} {cs body : List Char} {ts : List Token} {t : Token}
  {f : Fault} {doc : String}

/-! ## Tokens and open comments of a text -/

def Lexeme.chars : Lexeme → List Char
  | .word text | .number text => text.toList
  | .mark c => [c]

theorem chars_of_nextPiece {c : Char} {rest : List Char} {piece : Piece} {l : Lexeme}
    (next : nextPiece lineStart c cs = some (piece, rest)) (shown : piece.lexeme? = some l) :
    c ≠ '\n' ∧ ∃ others, l.chars = c :: others ∧ cs = others ++ rest := by
  have text := nextPiece_append next
  constructor
  · rintro rfl
    have blank : nextPiece lineStart '\n' cs = some (.blank '\n', cs) := if_pos (by decide)
    rw [next] at blank
    cases blank
    cases shown
  · cases piece with
    | word first others =>
      cases shown
      obtain ⟨rfl, rfl⟩ := List.cons.inj text
      exact ⟨others, String.toList_ofList, rfl⟩
    | number first others =>
      cases shown
      obtain ⟨rfl, rfl⟩ := List.cons.inj text
      exact ⟨others, String.toList_ofList, rfl⟩
    | mark d =>
      cases shown
      obtain ⟨rfl, rfl⟩ := List.cons.inj text
      exact ⟨[], rfl, rfl⟩
    | blank d => cases shown
    | lineComment others => cases shown
    | blockComment others => cases shown
    | directive others => cases shown

theorem place_of_mem_tokensFrom (scanned : tokensFrom lineStart p cs = .ok ts) (member : t ∈ ts) :
    ∃ c before after, t.lexeme.chars.head? = some c ∧ c ≠ '\n' ∧
      cs = before ++ t.lexeme.chars ++ after ∧ t.position = p.after before := by
  fun_induction tokensFrom lineStart p cs generalizing ts with
  | case1 =>
    cases scanned
    cases member
  | case2 => cases scanned
  | case3 lineStart p c cs piece rest next ih =>
    obtain ⟨others, scanned', joined⟩ := Traversal.bind_eq_ok_iff.1 scanned
    cases joined
    rcases List.mem_append.1 member with member | member
    · obtain ⟨l, shown, rfl⟩ := Option.map_eq_some_iff.1 (Option.mem_toList.1 member)
      obtain ⟨visible, chars, spelled, rfl⟩ := chars_of_nextPiece next shown
      refine ⟨c, [], rest, ?_, visible, ?_, rfl⟩
      · rw [spelled]
        rfl
      · rw [spelled]
        rfl
    · obtain ⟨d, before, after, first, visible, rfl, place⟩ := ih scanned' member
      refine ⟨d, piece.text ++ before, after, first, visible, ?_, ?_⟩
      · rw [nextPiece_append next, List.append_assoc, List.append_assoc, List.append_assoc]
      · rw [place, Position.after_append]

theorem not_closed_of_closeComment {afterStar : Bool} (opened : closeComment afterStar cs = none) :
    (afterStar → cs.head? ≠ some '/') ∧ ¬ ['*', '/'] <:+: cs := by
  fun_induction closeComment afterStar cs with
  | case1 => simp
  | case2 => cases opened
  | case3 afterStar c cs inside ih =>
    obtain ⟨next, later⟩ := ih (Option.map_eq_none_iff.1 opened)
    constructor
    · rintro rfl slash
      cases slash
      exact inside rfl
    · intro closed
      rcases List.infix_cons_iff.1 closed with now | closed
      · obtain ⟨after, joined⟩ := now
        cases joined
        exact next rfl rfl
      · exact later closed

theorem opens_of_nextPiece {c : Char} (next : nextPiece lineStart c cs = none) :
    ∃ body, c :: cs = '/' :: '*' :: body ∧ ¬ ['*', '/'] <:+: body := by
  unfold nextPiece at next
  split_ifs at next with _ _ _ opens
  obtain ⟨rfl, star⟩ := by simpa using opens
  obtain ⟨_, closed⟩ := not_closed_of_closeComment (Option.map_eq_none_iff.1 next)
  exact ⟨cs.tail, by rw [eq_cons_of_head? star, List.tail_cons], closed⟩

def OpensComment (lineStart : Bool) (cs before : List Char) : Prop :=
  ∃ lexemes restLineStart body, cs = before ++ '/' :: '*' :: body ∧
    Scans lineStart cs lexemes restLineStart ('/' :: '*' :: body) ∧ ¬ ['*', '/'] <:+: body

theorem opensComment_of_tokensFrom (refused : tokensFrom lineStart p cs = .error f) :
    ∃ before, OpensComment lineStart cs before ∧ f.position = p.after before := by
  fun_induction tokensFrom lineStart p cs with
  | case1 => cases refused
  | case2 lineStart p c cs next =>
    cases refused
    obtain ⟨body, opens, closed⟩ := opens_of_nextPiece next
    rw [opens]
    exact ⟨[], ⟨[], lineStart, body, rfl, .stop, closed⟩, rfl⟩
  | case3 lineStart p c cs piece rest next ih =>
    rcases Traversal.bind_eq_error_iff.1 refused with refused | ⟨_, _, refused⟩
    · obtain ⟨before, ⟨lexemes, restLineStart, body, rfl, scans, closed⟩, place⟩ := ih refused
      refine ⟨piece.text ++ before, ⟨_, _, body, ?_, .step next scans, closed⟩, ?_⟩
      · rw [nextPiece_append next, List.append_assoc]
      · rw [place, Position.after_append]
    · cases refused

/-! ## Quoting blocks -/

namespace Snippet

theorem suffix_of_afterMarker? (opened : afterMarker? cs = some body) : body <:+ cs := by
  simp only [afterMarker?, bind, Option.bind_eq_some_iff] at opened
  obtain ⟨rest, marked, opened⟩ := opened
  split at opened
  · rename_i colon
    cases opened
    rw [eq_append_of_afterPrefix? marked]
    have attributes := List.dropWhile_suffix (l := rest) inAttributes
    rw [colon] at attributes
    exact ((List.suffix_cons ':' _).trans attributes).trans (List.suffix_append _ _)
  · cases opened

theorem takeBody_append (depth : Nat) (cs : List Char) :
    (takeBody depth cs).1 <+: cs ∧ (takeBody depth cs).2 <:+ cs := by
  induction cs generalizing depth with
  | nil => exact ⟨List.prefix_refl _, List.suffix_refl _⟩
  | cons c cs ih =>
    have step (depth : Nat) : c :: (takeBody depth cs).1 <+: c :: cs ∧
        (takeBody depth cs).2 <:+ c :: cs :=
      ⟨(List.prefix_cons_inj c).2 (ih depth).1, (ih depth).2.trans (List.suffix_cons c cs)⟩
    rw [takeBody.eq_def]
    dsimp only
    split_ifs
    · exact step (depth + 1)
    · cases depth with
      | zero => exact ⟨List.nil_prefix, List.suffix_cons c cs⟩
      | succ depth => exact step depth
    · exact step depth

theorem place_of_mem_allFrom {s : Snippet} (member : s ∈ allFrom p cs) :
    ∃ before after, cs = before ++ s.text.toList ++ after ∧ s.position = p.after before := by
  fun_induction allFrom p cs with
  | case1 => cases member
  | case2 p c cs body opened p' rest ih =>
    have cut (front back : List Char) :
        (front ++ back).take ((front ++ back).length - back.length) = front := by simp
    obtain ⟨front, joined⟩ := suffix_of_afterMarker? opened
    obtain ⟨⟨after, text⟩, ⟨passed, tail⟩⟩ := takeBody_append 0 body
    have start : p' = p.after front := by rw [← cut front body, joined]
    rcases List.mem_cons.1 member with rfl | member
    · refine ⟨front, after, ?_, start⟩
      rw [String.toList_ofList, List.append_assoc, text, joined]
    · obtain ⟨before, after, split, place⟩ := ih member
      have taken : body.take (body.length - rest.length) = passed := by rw [← cut passed rest, tail]
      refine ⟨front ++ (passed ++ before), after, ?_, ?_⟩
      · rw [← joined, ← tail, show (takeBody 0 body).2 = _ from split]
        simp only [List.append_assoc]
      · rw [place, taken, start, ← Position.after_append, ← Position.after_append]
  | case3 p c cs closed ih =>
    obtain ⟨before, after, rfl, place⟩ := ih member
    exact ⟨c :: before, after, rfl, place⟩

theorem charAt?_of_mem_all {s : Snippet} {before after : List Char} {c : Char}
    (member : s ∈ all doc) (inside : s.text.toList = before ++ c :: after) (visible : c ≠ '\n') :
    charAt? doc.toList (s.position.after before) = some c := by
  obtain ⟨front, back, joined, place⟩ := place_of_mem_allFrom member
  rw [place, ← Position.after_append, joined, inside]
  have whole :
      front ++ (before ++ c :: after) ++ back = front ++ before ++ c :: (after ++ back) := by
    simp only [List.append_assoc, List.cons_append]
  rw [whole]
  exact charAt?_after (front ++ before) (after ++ back) visible

theorem charAt?_of_mem_tokens {s : Snippet} (member : s ∈ all doc)
    (scanned : tokens s.position s.text = .ok ts) (among : t ∈ ts) :
    ∃ c, charAt? doc.toList t.position = some c ∧ t.lexeme.chars.head? = some c := by
  obtain ⟨c, before, after, first, visible, inside, place⟩ := place_of_mem_tokensFrom scanned among
  obtain ⟨others, spelled⟩ := List.head?_eq_some_iff.1 first
  rw [spelled, List.append_assoc, List.cons_append] at inside
  rw [place]
  exact ⟨c, charAt?_of_mem_all member inside visible, first⟩

end Snippet

/-! ## Members and faults -/

theorem exists_token_of_ofTokens (refused : ofTokens ts = .error f) :
    ∃ t ∈ ts, t.position = f.position := by
  rcases reportable_of_declarations (List.suffix_refl ts) refused with last | token
  · cases found : ts.getLast? with
    | none =>
      obtain rfl := List.getLast?_eq_none_iff.1 found
      rw [ofTokens, declarations] at refused
      cases refused
    | some t =>
      refine ⟨t, List.mem_of_getLast? found, ?_⟩
      rw [last, lastPosition, found]
      rfl
  · exact token

theorem declarator_begins {stop : Position} {after : List Token} {name : String} {d : Declarator}
    {rest : Shorter (t :: after)} (read : declarator stop (t :: after) = .ok (name, d, rest)) :
    t.lexeme = .mark '*' ∨ t.lexeme = .mark '(' ∨ t.lexeme = .word name := by
  by_cases star : t.isMark '*'
  · exact .inl (of_decide_eq_true star)
  have plain : takePointers false (t :: after) = (0, t :: after) := by
    rw [takePointers, if_neg star]
    rfl
  have direct := declarator_eq_ok_iff.1 ⟨_, read⟩
  rw [plain] at direct
  obtain ⟨d₀, _, shorter, direct⟩ := direct
  rw [directDeclarator] at direct
  split_ifs at direct with group
  · exact .inr (.inl (of_decide_eq_true group))
  · cases word : t.word? with
    | none =>
      rw [word] at direct
      cases direct
    | some name' =>
      rw [word] at direct
      obtain ⟨_, _, same⟩ := Traversal.bind_eq_ok_iff.1 direct
      obtain rfl : name' = name := congrArg Prod.fst (Except.ok.inj same)
      refine .inr (.inr ?_)
      obtain ⟨lexeme, _⟩ := t
      cases lexeme with
      | word text =>
        cases word
        rfl
      | number text => cases word
      | mark c => cases word

def BeginsDeclarator (c : Char) (m : Member) : Prop :=
  c = '*' ∨ c = '(' ∨ m.name.toList.head? = some c

theorem beginsDeclarator_of_readFrom {m : Member} {stop : Position} (read : m.ReadFrom stop ts) :
    ∃ t ∈ ts, t.position = m.position ∧
      ∀ c, t.lexeme.chars.head? = some c → BeginsDeclarator c m := by
  obtain ⟨t, after, inside, place, rest, read⟩ := read
  refine ⟨t, inside.subset List.mem_cons_self, place, fun c first => ?_⟩
  rcases declarator_begins read with begins | begins | begins
  · rw [begins] at first
    exact .inl (Option.some.inj first).symm
  · rw [begins] at first
    exact .inr (.inl (Option.some.inj first).symm)
  · rw [begins] at first
    exact .inr (.inr first)

theorem ofDocumentation_positions (doc : String) :
    match ofDocumentation doc with
    | .ok ds => ∀ d ∈ ds, ∀ m ∈ d.members, ∃ s ∈ Snippet.all doc, ∃ ts,
        tokens s.position s.text = .ok ts ∧ m.ReadFrom (lastPosition ts) ts ∧
        ∃ c, charAt? doc.toList m.position = some c ∧ BeginsDeclarator c m
    | .error f => ∃ s ∈ Snippet.all doc,
        (∃ ts, tokens s.position s.text = .ok ts ∧ ∃ t ∈ ts, t.position = f.position ∧
          ∃ c, charAt? doc.toList f.position = some c ∧ t.lexeme.chars.head? = some c) ∨
        (∃ before, OpensComment true s.text.toList before ∧
          f.position = s.position.after before ∧ charAt? doc.toList f.position = some '/') := by
  split
  · rename_i ds accepted
    obtain ⟨parts, read, joined⟩ := Traversal.bind_eq_ok_iff.1 accepted
    cases joined
    intro d member m among
    obtain ⟨part, known, member⟩ := List.mem_flatten.1 member
    obtain ⟨s, block, read⟩ := Traversal.exists_of_mem_mapM read known
    obtain ⟨ts, scanned, read⟩ := Traversal.bind_eq_ok_iff.1 read
    -- The member stands at a token, and the token at its first character.
    have readFrom := readFrom_of_declarations (List.suffix_refl ts) read d member m among
    obtain ⟨t, inside, place, begins⟩ := beginsDeclarator_of_readFrom readFrom
    obtain ⟨c, found, first⟩ := Snippet.charAt?_of_mem_tokens block scanned inside
    rw [place] at found
    exact ⟨s, block, ts, scanned, readFrom, c, found, begins c first⟩
  · rename_i f refused
    rcases Traversal.bind_eq_error_iff.1 refused with refused | ⟨_, _, done⟩
    · obtain ⟨s, block, refused⟩ := Traversal.exists_of_mapM_error refused
      refine ⟨s, block, ?_⟩
      rcases Traversal.bind_eq_error_iff.1 refused with refused | ⟨ts, scanned, refused⟩
      · obtain ⟨before, opens, place⟩ := opensComment_of_tokensFrom refused
        have ⟨_, _, body, inside, _⟩ := opens
        rw [place]
        exact .inr ⟨before, opens, rfl, Snippet.charAt?_of_mem_all block inside (by decide)⟩
      · obtain ⟨t, inside, place⟩ := exists_token_of_ofTokens refused
        obtain ⟨c, found, first⟩ := Snippet.charAt?_of_mem_tokens block scanned inside
        rw [place] at found
        exact .inl ⟨ts, scanned, t, inside, place, c, found, first⟩
    · cases done

theorem ofDocumentation_positions_second_line :
    ofDocumentation "A block. \x7b@snippet :\nstruct A \x7b int *a; \x7d;\n\x7d" =
      .ok [.record "A" [⟨"a", "int", .pointer .value, ⟨2, 15⟩⟩]] ∧
    ∃ c,
      charAt? "A block. \x7b@snippet :\nstruct A \x7b int *a; \x7d;\n\x7d".toList ⟨2, 15⟩ = some c ∧
      BeginsDeclarator c ⟨"a", "int", .pointer .value, ⟨2, 15⟩⟩ := by
  have read : ofDocumentation "A block. \x7b@snippet :\nstruct A \x7b int *a; \x7d;\n\x7d" =
      .ok [.record "A" [⟨"a", "int", .pointer .value, ⟨2, 15⟩⟩]] := by
    decide +kernel
  have positions :=
    ofDocumentation_positions "A block. \x7b@snippet :\nstruct A \x7b int *a; \x7d;\n\x7d"
  rw [read] at positions
  obtain ⟨_, _, _, _, _, found⟩ :=
    positions _ List.mem_cons_self _ List.mem_cons_self
  exact ⟨read, found⟩

end Declaration
end Bindwright
