import Bindwright.Declaration.Grammar
import Bindwright.Text.Affix

namespace Bindwright.Declaration

open Text

structure Snippet where
  text : String
  position : Position
  deriving DecidableEq, Repr

namespace Snippet

def marker : List Char := "\x7b@snippet".toList

def inAttributes (c : Char) : Bool := c != ':' && c != '\x7b' && c != '\x7d'

def afterMarker? (cs : List Char) : Option (List Char) := do
  let rest ← afterPrefix? marker cs
  match rest.dropWhile inAttributes with
  | ':' :: body => some body
  | _ => none

theorem afterMarker?_length {cs body : List Char} (h : afterMarker? cs = some body) :
    body.length < cs.length := by
  simp only [afterMarker?, bind, Option.bind_eq_some_iff] at h
  obtain ⟨rest, hp, h⟩ := h
  split at h
  · rename_i hd
    obtain rfl := by simpa using h
    have := congrArg List.length hd
    have := (rest.dropWhile_sublist inAttributes).length_le
    simp [eq_append_of_afterPrefix? hp] at *
    omega
  · simp at h

/-- The text up to the brace that closes the block, and what follows it, with `depth` braces open
inside the block. A block without that brace runs to the end. -/
def takeBody : (depth : Nat) → List Char → List Char × List Char
  | _, [] => ([], [])
  | depth, c :: cs =>
    if c = '\x7b' then
      let (body, rest) := takeBody (depth + 1) cs
      (c :: body, rest)
    else if c = '\x7d' then
      match depth with
      | 0 => ([], cs)
      | depth + 1 =>
        let (body, rest) := takeBody depth cs
        (c :: body, rest)
    else
      let (body, rest) := takeBody depth cs
      (c :: body, rest)

theorem takeBody_length (depth : Nat) (cs : List Char) :
    (takeBody depth cs).1.length + (takeBody depth cs).2.length ≤ cs.length := by
  fun_induction takeBody depth cs <;> simp_all <;> omega

def allFrom (p : Position) : List Char → List Snippet
  | [] => []
  | c :: cs =>
    match _ : afterMarker? (c :: cs) with
    | some body =>
      let p := p.after ((c :: cs).take ((c :: cs).length - body.length))
      let rest := (takeBody 0 body).2
      ⟨String.ofList (takeBody 0 body).1, p⟩ ::
        allFrom (p.after (body.take (body.length - rest.length))) rest
    | none => allFrom (p.advance c) cs
termination_by cs => cs.length
decreasing_by
  · have := afterMarker?_length ‹_›
    have := takeBody_length 0 body
    simp at *; omega
  · simp

def all (documentation : String) : List Snippet := allFrom .start documentation.toList

def declarations (s : Snippet) : Except Fault (List Declaration) := do
  ofTokens (← tokens s.position s.text)

end Snippet

def ofDocumentation (documentation : String) : Except Fault (List Declaration) :=
  return (← (Snippet.all documentation).mapM Snippet.declarations).flatten

def takeName? : List Char → Option (List Char × List Char)
  | c :: cs =>
    if startsName c then some (c :: cs.takeWhile continuesName, cs.dropWhile continuesName)
    else none
  | [] => none

theorem takeName?_length {cs name rest : List Char} (h : takeName? cs = some (name, rest)) :
    rest.length < cs.length := by
  cases cs with
  | nil => simp [takeName?] at h
  | cons c cs =>
    simp only [takeName?] at h
    split at h
    · obtain ⟨_, rfl⟩ := by simpa using h
      have := (cs.dropWhile_sublist continuesName).length_le
      simp; omega
    · simp at h

def takeQualified? (cs : List Char) : Option ((List Char × List Char) × List Char) := do
  let (owner, rest) ← takeName? cs
  match rest with
  | '.' :: rest =>
    let (name, rest) ← takeName? rest
    some ((owner, name), rest)
  | _ => none

theorem takeQualified?_length {cs rest : List Char} {names : List Char × List Char}
    (h : takeQualified? cs = some (names, rest)) : rest.length < cs.length := by
  simp only [takeQualified?, bind, Option.bind_eq_some_iff] at h
  obtain ⟨⟨owner, r⟩, ho, h⟩ := h
  dsimp only at h
  split at h
  · obtain ⟨⟨name, r'⟩, hn, h⟩ := Option.bind_eq_some_iff.1 h
    obtain ⟨_, rfl⟩ := by simpa using h
    have := takeName?_length ho
    have := takeName?_length hn
    simp at *; omega
  · simp at h

def qualifiedNames : List Char → List (List Char × List Char)
  | [] => []
  | c :: cs =>
    match _ : takeQualified? (c :: cs) with
    | some (names, rest) => names :: qualifiedNames rest
    | none => qualifiedNames cs
termination_by cs => cs.length
decreasing_by
  · exact takeQualified?_length ‹_›
  · simp

def owners (text constant : String) : List String :=
  (qualifiedNames text.toList).filterMap fun (owner, name) =>
    if String.ofList name = constant then some (String.ofList owner) else none

end Bindwright.Declaration
