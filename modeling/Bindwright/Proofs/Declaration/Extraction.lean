import Bindwright.Declaration.Snippet
import Bindwright.Proofs.Text.Position

namespace Bindwright.Declaration

open Text

def Nested (cs : List Char) : Prop :=
  ∀ front, front <+: cs → front.count '\x7d' ≤ front.count '\x7b'

theorem nested_iff {cs : List Char} :
    Nested cs ↔ ∀ n < cs.length + 1, (cs.take n).count '\x7d' ≤ (cs.take n).count '\x7b' := by
  constructor
  · exact fun nested n _ => nested _ (List.take_prefix n cs)
  · intro nested front inside
    rw [List.prefix_iff_eq_take.1 inside]
    exact nested front.length (Nat.lt_succ_of_le inside.length_le)

instance (cs : List Char) : Decidable (Nested cs) := decidable_of_iff _ nested_iff.symm

/-- Prose and a quoting block, up to the end of the block's body. -/
structure Quotation where
  prose : List Char
  attributes : List Char
  body : List Char
  unmarked : ¬Snippet.marker <:+: prose
  plain : ':' ∉ attributes ∧ '\x7b' ∉ attributes ∧ '\x7d' ∉ attributes
  nested : Nested body

namespace Quotation

def opening (q : Quotation) : List Char := q.prose ++ (Snippet.marker ++ (q.attributes ++ [':']))

def text (q : Quotation) : List Char := q.opening ++ q.body

def Balanced (q : Quotation) : Prop := q.body.count '\x7d' = q.body.count '\x7b'

instance (q : Quotation) : Decidable q.Balanced := inferInstanceAs (Decidable (_ = _))

def closed (q : Quotation) : List Char := q.text ++ ['\x7d']

end Quotation

inductive Ending where
  | prose (text : List Char) (unmarked : ¬Snippet.marker <:+: text)
  | unclosed (q : Quotation)

namespace Ending

def text : Ending → List Char
  | prose text _ => text
  | unclosed q => q.text

def quotations : Ending → List Quotation
  | prose _ _ => []
  | unclosed q => [q]

end Ending

structure Documentation where
  blocks : List Quotation
  balanced : ∀ q ∈ blocks, q.Balanced
  ending : Ending

namespace Documentation

def text (d : Documentation) : List Char := d.blocks.flatMap Quotation.closed ++ d.ending.text

def quotations (d : Documentation) : List Quotation := d.blocks ++ d.ending.quotations

end Documentation

namespace Snippet

/-- The bodies of closed blocks that follow `before`, and where each begins. -/
def quoted (before : List Char) : List Quotation → List Snippet
  | [] => []
  | q :: qs =>
    ⟨String.ofList q.body, .atEnd (before ++ q.opening)⟩ :: quoted (before ++ q.closed) qs

theorem quoted_append (before : List Char) (qs others : List Quotation) :
    quoted before (qs ++ others) =
      quoted before qs ++ quoted (before ++ qs.flatMap Quotation.closed) others := by
  induction qs generalizing before with
  | nil => simp [quoted]
  | cons q qs ih => simp [quoted, ih]

variable {p : Position} {c : Char} {cs body rest : List Char}

theorem takeBody_open (depth : Nat) (cs : List Char) :
    takeBody depth ('\x7b' :: cs) =
      ('\x7b' :: (takeBody (depth + 1) cs).1, (takeBody (depth + 1) cs).2) := by
  rw [takeBody.eq_def]
  rfl

theorem takeBody_close (depth : Nat) (cs : List Char) :
    takeBody (depth + 1) ('\x7d' :: cs) =
      ('\x7d' :: (takeBody depth cs).1, (takeBody depth cs).2) := by
  rw [takeBody.eq_def]
  rfl

theorem takeBody_plain (depth : Nat) (cs : List Char) (noOpen : c ≠ '\x7b')
    (noClose : c ≠ '\x7d') :
    takeBody depth (c :: cs) = (c :: (takeBody depth cs).1, (takeBody depth cs).2) := by
  rw [takeBody.eq_def]
  dsimp only
  rw [if_neg noOpen, if_neg noClose]

theorem takeBody_nested {depth left : Nat}
    (nested : ∀ front, front <+: body → front.count '\x7d' ≤ depth + front.count '\x7b')
    (level : depth + body.count '\x7b' = left + body.count '\x7d') (rest : List Char) :
    takeBody depth (body ++ rest) = (body ++ (takeBody left rest).1, (takeBody left rest).2) := by
  -- `depth` braces are open, and no beginning of the body closes more than these and its own.
  have apart : '\x7b' ≠ '\x7d' := by decide
  induction body generalizing depth with
  | nil =>
    obtain rfl : depth = left := by simpa using level
    rfl
  | cons c body ih =>
    have within (front : List Char) (inside : front <+: body) :=
      nested (c :: front) ((List.prefix_cons_inj c).2 inside)
    rw [List.cons_append]
    by_cases opens : c = '\x7b'
    · subst opens
      simp only [List.count_cons_self, List.count_cons_of_ne apart] at within level
      have later (front : List Char) (inside : front <+: body) :
          front.count '\x7d' ≤ depth + 1 + front.count '\x7b' := by
        have := within front inside
        omega
      rw [takeBody_open, ih later (by omega)]
      rfl
    by_cases closes : c = '\x7d'
    · subst closes
      simp only [List.count_cons_self, List.count_cons_of_ne apart.symm] at within level
      cases depth with
      | zero => exact absurd (nested ['\x7d'] ⟨body, rfl⟩) (by decide)
      | succ depth =>
        have later (front : List Char) (inside : front <+: body) :
            front.count '\x7d' ≤ depth + front.count '\x7b' := by
          have := within front inside
          omega
        rw [takeBody_close, ih later (by omega)]
        rfl
    · simp only [List.count_cons_of_ne opens, List.count_cons_of_ne closes] at within level
      rw [takeBody_plain depth _ opens closes, ih within level]
      rfl

theorem takeBody_closed {q : Quotation} (balanced : q.Balanced) (rest : List Char) :
    takeBody 0 (q.body ++ '\x7d' :: rest) = (q.body, rest) := by
  have level : 0 + q.body.count '\x7b' = 0 + q.body.count '\x7d' := by rw [balanced]
  rw [takeBody_nested (by simpa [Nested] using q.nested) level]
  simp [takeBody]

theorem takeBody_unclosed (q : Quotation) : takeBody 0 q.body = (q.body, []) := by
  have fewer := q.nested q.body List.prefix_rfl
  have level : 0 + q.body.count '\x7b' =
      q.body.count '\x7b' - q.body.count '\x7d' + q.body.count '\x7d' := by omega
  have taken := takeBody_nested (by simpa [Nested] using q.nested) level []
  simpa [takeBody] using taken

theorem afterMarker?_eq_none (unmarked : ¬marker <+: cs) : afterMarker? cs = none := by
  cases marked : afterPrefix? marker cs with
  | none => simp [afterMarker?, marked]
  | some rest => exact absurd ⟨rest, (eq_append_of_afterPrefix? marked).symm⟩ unmarked

theorem not_marked_append (unmarked : ¬marker <:+: c :: cs)
    (next : ∀ d ∈ rest.head?, d = '\x7b') : ¬marker <+: c :: cs ++ rest := by
  intro reaches
  rcases List.prefix_or_prefix_of_prefix reaches (List.prefix_append (c :: cs) rest) with
    inside | ⟨tail, split⟩
  · exact unmarked inside.isInfix
  · cases tail with
    | nil =>
      rw [List.append_nil] at split
      exact unmarked (split ▸ List.infix_rfl)
    | cons d tail =>
      rw [← split, List.prefix_append_right_inj] at reaches
      obtain ⟨more, rfl⟩ := reaches
      obtain rfl := next d rfl
      have again : '\x7b' ∈ marker.tail := by
        rw [← split]
        simp
      exact absurd again (by decide)

theorem allFrom_passed (p : Position) (closed : afterMarker? (c :: cs) = none) :
    allFrom p (c :: cs) = allFrom (p.advance c) cs := by
  rw [allFrom]
  split
  · rename_i opened
    rw [closed] at opened
    cases opened
  · rfl

theorem allFrom_prose (p : Position) (unmarked : ¬marker <:+: cs)
    (next : ∀ d ∈ rest.head?, d = '\x7b') :
    allFrom p (cs ++ rest) = allFrom (p.after cs) rest := by
  induction cs generalizing p with
  | nil => rfl
  | cons c cs ih =>
    have none : afterMarker? (c :: (cs ++ rest)) = none :=
      afterMarker?_eq_none (not_marked_append unmarked next)
    have later : ¬marker <:+: cs := fun inside => unmarked (List.infix_cons inside)
    rw [List.cons_append, allFrom_passed p none, ih (p.advance c) later, Position.after_cons]

theorem afterMarker?_opening {attributes : List Char}
    (plain : ':' ∉ attributes ∧ '\x7b' ∉ attributes ∧ '\x7d' ∉ attributes) (rest : List Char) :
    afterMarker? (marker ++ (attributes ++ ':' :: rest)) = some rest := by
  have allowed : ∀ d ∈ attributes, inAttributes d := by
    intro d inside
    obtain ⟨noColon, noOpen, noClose⟩ := plain
    have colon : d ≠ ':' := fun same => noColon (same ▸ inside)
    have opens : d ≠ '\x7b' := fun same => noOpen (same ▸ inside)
    have closes : d ≠ '\x7d' := fun same => noClose (same ▸ inside)
    simp [inAttributes, colon, opens, closes]
  have stops : (attributes ++ ':' :: rest).dropWhile inAttributes = ':' :: rest := by
    rw [List.dropWhile_append_of_pos allowed]
    rfl
  simp [afterMarker?, afterPrefix?_append, stops]

theorem allFrom_opened (p : Position) {front : List Char} (some : front ≠ [])
    (opened : afterMarker? (front ++ cs) = .some cs) (split : takeBody 0 cs = (body, rest))
    {taken : List Char} (whole : cs = taken ++ rest) :
    allFrom p (front ++ cs) =
      ⟨String.ofList body, p.after front⟩ :: allFrom ((p.after front).after taken) rest := by
  have cut (front back : List Char) :
      (front ++ back).take ((front ++ back).length - back.length) = front := by simp
  obtain ⟨c, front, rfl⟩ := List.exists_cons_of_ne_nil some
  rw [List.cons_append] at opened ⊢
  rw [allFrom.eq_def]
  dsimp only
  split
  · rename_i cs' opened'
    obtain rfl : cs = cs' := Option.some.inj (opened.symm.trans opened')
    have start := cut (c :: front) cs
    have passed : cs.take (cs.length - rest.length) = taken := by
      rw [whole]
      exact cut taken rest
    rw [List.cons_append] at start
    rw [split, start]
    dsimp only
    rw [passed]
  · rename_i closed
    rw [opened] at closed
    cases closed

variable {q : Quotation}

theorem allFrom_quotation (q : Quotation) (before : List Char)
    (split : takeBody 0 (q.body ++ rest) = (q.body, cs)) {closing : List Char}
    (whole : rest = closing ++ cs) :
    allFrom (.atEnd before) (q.text ++ rest) =
      ⟨String.ofList q.body, .atEnd (before ++ q.opening)⟩ ::
        allFrom (.atEnd (before ++ (q.text ++ closing))) cs := by
  have text : q.text ++ rest =
      q.prose ++ (marker ++ (q.attributes ++ [':']) ++ (q.body ++ rest)) := by
    simp [Quotation.text, Quotation.opening]
  have opened : afterMarker? (marker ++ (q.attributes ++ [':']) ++ (q.body ++ rest)) =
      some (q.body ++ rest) := by
    simpa using afterMarker?_opening q.plain (q.body ++ rest)
  have taken : q.body ++ rest = q.body ++ closing ++ cs := by simp [whole]
  have begins : ∀ d ∈ (marker ++ (q.attributes ++ [':']) ++ (q.body ++ rest)).head?,
      d = '\x7b' := by
    rintro d ⟨⟩
    rfl
  have opening : marker ++ (q.attributes ++ [':']) ≠ [] := by
    intro empty
    cases empty
  rw [text, allFrom_prose _ q.unmarked begins, allFrom_opened _ opening opened split taken]
  simp only [← Position.start_after, ← Position.after_append, Quotation.text, Quotation.opening,
    List.append_assoc]

theorem allFrom_closed (balanced : q.Balanced) (before rest : List Char) :
    allFrom (.atEnd before) (q.closed ++ rest) =
      ⟨String.ofList q.body, .atEnd (before ++ q.opening)⟩ ::
        allFrom (.atEnd (before ++ q.closed)) rest := by
  have split := takeBody_closed balanced rest
  have whole : '\x7d' :: rest = ['\x7d'] ++ rest := rfl
  have found := allFrom_quotation q before split whole
  simpa [Quotation.closed] using found

theorem allFrom_unclosed (q : Quotation) (before : List Char) :
    allFrom (.atEnd before) q.text =
      [⟨String.ofList q.body, .atEnd (before ++ q.opening)⟩] := by
  have split : takeBody 0 (q.body ++ []) = (q.body, []) := by simpa using takeBody_unclosed q
  have found := allFrom_quotation q before split (List.nil_append []).symm
  simpa [allFrom] using found

theorem allFrom_unmarked (p : Position) (unmarked : ¬marker <:+: cs) : allFrom p cs = [] := by
  have next : ∀ d ∈ ([] : List Char).head?, d = '\x7b' := by simp
  simpa [allFrom] using allFrom_prose p unmarked next

theorem allFrom_blocks (qs : List Quotation) (balanced : ∀ q ∈ qs, q.Balanced)
    (before rest : List Char) :
    allFrom (.atEnd before) (qs.flatMap Quotation.closed ++ rest) =
      quoted before qs ++ allFrom (.atEnd (before ++ qs.flatMap Quotation.closed)) rest := by
  induction qs generalizing before with
  | nil => simp [quoted]
  | cons q qs ih =>
    have first := balanced q List.mem_cons_self
    have later : ∀ q ∈ qs, q.Balanced := fun q inside => balanced q (List.mem_cons_of_mem _ inside)
    rw [List.flatMap_cons, List.append_assoc, allFrom_closed first, ih later, quoted,
      List.cons_append, List.append_assoc]

theorem allFrom_ending (ending : Ending) (before : List Char) :
    allFrom (.atEnd before) ending.text = quoted before ending.quotations := by
  cases ending with
  | prose text unmarked => exact allFrom_unmarked _ unmarked
  | unclosed q => exact allFrom_unclosed q before

/-- Just the bodies of the blocks are found, in order, each where it begins in the text. -/
theorem all_text (d : Documentation) :
    all (String.ofList d.text) = quoted [] d.quotations := by
  rw [all, String.toList_ofList, Documentation.text, Documentation.quotations, quoted_append,
    ← allFrom_ending]
  exact allFrom_blocks d.blocks d.balanced [] _

def structBlock : Quotation where
  prose := "Größe ".toList
  attributes := " a ".toList
  body := " struct S \x7b\x7d; ".toList
  unmarked := by decide +kernel
  plain := by decide +kernel
  nested := by decide +kernel

def openBlock : Quotation where
  prose := "\nor ".toList
  attributes := []
  body := "\x7b@snippet :\x7d".toList
  unmarked := by decide +kernel
  plain := by decide +kernel
  nested := by decide +kernel

def unclosedSample : Documentation where
  blocks := [structBlock]
  balanced := by decide +kernel
  ending := .unclosed openBlock

theorem all_text_unclosed :
    all "Größe \x7b@snippet a : struct S \x7b\x7d; \x7d\nor \x7b@snippet:\x7b@snippet :\x7d" =
      [⟨" struct S \x7b\x7d; ", ⟨1, 19⟩⟩, ⟨"\x7b@snippet :\x7d", ⟨2, 13⟩⟩] := by
  have text : String.ofList unclosedSample.text =
      "Größe \x7b@snippet a : struct S \x7b\x7d; \x7d\nor \x7b@snippet:\x7b@snippet :\x7d" := by
    decide +kernel
  rw [← text, all_text]
  decide +kernel

end Snippet

end Bindwright.Declaration
