import Bindwright.Source.Literal
import Bindwright.Location

namespace Bindwright.Source

open Text

inductive Delimiter where
  | parenthesis
  | bracket
  | brace
  deriving DecidableEq, Repr

namespace Delimiter

def opening : Delimiter → Char
  | parenthesis => '('
  | bracket => '['
  | brace => '\x7b'

def closing : Delimiter → Char
  | parenthesis => ')'
  | bracket => ']'
  | brace => '\x7d'

def all : List Delimiter := [parenthesis, bracket, brace]

def enclose (d : Delimiter) (content : String) : String :=
  match d with
  | parenthesis => "(" ++ content ++ ")"
  | bracket => "[" ++ content ++ "]"
  | brace => "\x7b " ++ content ++ (if content.isEmpty then "\x7d" else " \x7d")

end Delimiter

inductive Tree where
  | word (text : String) (position : Position)
  | lifetime (text : String) (position : Position)
  | literal (value : Literal) (text : String) (position : Position)
  | mark (char : Char) (joint : Bool) (position : Position)
  | group (delimiter : Delimiter) (content : List Tree) (position : Position)
  deriving Repr

namespace Tree

def position : Tree → Position
  | word _ p | lifetime _ p | literal _ _ p | mark _ _ p | group _ _ p => p

def isJoint : Tree → Bool
  | mark _ joint _ => joint
  | _ => false

mutual

def text : Tree → String
  | word s _ | lifetime s _ | literal _ s _ => s
  | mark c _ _ => String.singleton c
  | group d content _ => d.enclose (spaced content)

def spaced : List Tree → String
  | [] => ""
  | [t] => t.text
  | t :: ts => t.text ++ (if t.isJoint then "" else " ") ++ spaced ts

end

mutual

def size : Tree → Nat
  | group _ content _ => sizes content + 1
  | _ => 1

def sizes : List Tree → Nat
  | [] => 0
  | t :: ts => t.size + sizes ts

end

inductive Piece where
  | blank
  | documentation (inner : Bool) (text : List Char)
  | opening (d : Delimiter)
  | closing (d : Delimiter)
  | word
  | lifetime
  | literal (value : Literal)
  | mark (joint : Bool)

def isSpace (c : Char) : Bool := isBlank c || c.toNat = 0x200E || c.toNat = 0x200F

def line : List Char → List Char
  | [] | '\n' :: _ | '\r' :: '\n' :: _ => []
  | c :: cs => c :: line cs

def commentRest? : (depth : Nat) → List Char → Option (List Char)
  | _, [] => none
  | depth, '/' :: '*' :: cs => (commentRest? (depth + 1) cs).map fun r => '/' :: '*' :: r
  | depth, '*' :: '/' :: cs =>
    if depth ≤ 1 then some ['*', '/'] else (commentRest? (depth - 1) cs).map fun r => '*' :: '/' :: r
  | depth, c :: cs => (commentRest? depth cs).map (c :: ·)

/-- The first comment of a text that begins with a slash. Three slashes or `/**` document what
follows, but four slashes, `/***` and an empty comment do not; `//!` and `/*!` document what they
stand in. -/
def comment? : List Char → Option (Piece × List Char)
  | '/' :: '/' :: cs =>
    let full := '/' :: '/' :: line cs
    match line cs with
    | '!' :: text => some (.documentation true text, full)
    | '/' :: '/' :: _ => some (.blank, full)
    | '/' :: text => some (.documentation false text, full)
    | _ => some (.blank, full)
  | '/' :: '*' :: '*' :: '/' :: _ => some (.blank, "/**/".toList)
  | '/' :: '*' :: cs => do
    let rest ← commentRest? 1 cs
    let full := '/' :: '*' :: rest
    let text := (rest.take (rest.length - 2)).drop 1
    match cs with
    | '!' :: _ => some (.documentation true text, full)
    | '*' :: '*' :: _ => some (.blank, full)
    | '*' :: _ => some (.documentation false text, full)
    | _ => some (.blank, full)
  | _ => none

def isMark (c : Char) : Bool := "~!@#$%^&*-=+|;:,<.>/?'".toList.contains c

def startsMark : List Char → Bool
  | '/' :: '/' :: _ | '/' :: '*' :: _ => false
  | c :: _ => isMark c
  | [] => false

def literalStarts : List String :=
  ["r\"", "r#\"", "r##", "b\"", "b'", "br\"", "br#", "c\"", "cr\"", "cr#"]

def word? (cs : List Char) : Option (List Char) :=
  match cs with
  | 'r' :: '#' :: rest => do
    let name ← identifier? rest
    if ["_", "super", "self", "Self", "crate"].contains (String.ofList name) then none
    else some ('r' :: '#' :: name)
  | cs => identifier? cs

/-- The lifetime in front. No quote may follow it, nor a hash after a name that is not raw. -/
def lifetime? : List Char → Option (List Char)
  | '\'' :: cs => do
    let name ← word? cs
    let rest := cs.drop name.length
    if startsWith ['\''] rest ∨ startsWith ['#'] rest ∧ !startsWith ['r', '#'] cs then none
    else some ('\'' :: name)
  | _ => none

def piece? (cs : List Char) : Option (Piece × List Char) :=
  match cs with
  | [] => none
  | c :: rest =>
    if isSpace c then some (.blank, c :: rest.takeWhile isSpace)
    else if c = '/' ∧ !startsMark cs then comment? cs
    else
      match Delimiter.all.find? (·.opening = c), Delimiter.all.find? (·.closing = c) with
      | some d, _ => some (.opening d, [c])
      | _, some d => some (.closing d, [c])
      | none, none =>
        match Literal.ofText? cs with
        | some (value, lexeme) => some (.literal value, lexeme)
        | none =>
          if c = '\'' then (lifetime? cs).map (Piece.lifetime, ·)
          else if startsMark cs then some (.mark (startsMark rest), [c])
          -- What begins like a quoted literal but is none must not be read as a word.
          else if literalStarts.any fun s => startsWith s.toList cs then none
          else (word? cs).map (Piece.word, ·)

/-- The trees read so far: those of the innermost open group, and those before each group that is
open, all last first. -/
structure Nest where
  inner : List Tree
  outer : List (Delimiter × Position × List Tree)

namespace Nest

def push (n : Nest) (t : Tree) : Nest := { n with inner := t :: n.inner }

def pushDocumentation (n : Nest) (inner : Bool) (text : List Char) (p : Position) : Nest :=
  let text := String.ofList text
  let content := [word "doc" p, mark '=' false p, literal (.text text) text p]
  let n := n.push (mark '#' false p)
  let n := if inner then n.push (mark '!' false p) else n
  n.push (group .bracket content p)

def add? (n : Nest) (p : Position) (piece : Piece) (lexeme : List Char) : Option Nest :=
  match piece with
  | .blank => some n
  | .documentation inner text =>
    if Literal.endsLines text then some (n.pushDocumentation inner text p) else none
  | .opening d => some ⟨[], (d, p, n.inner) :: n.outer⟩
  | .closing d =>
    match n.outer with
    | (e, p, before) :: outer =>
      if d = e then some ⟨group d n.inner.reverse p :: before, outer⟩ else none
    | [] => none
  | .word => some (n.push (Tree.word (String.ofList lexeme) p))
  | .lifetime => some (n.push (Tree.lifetime (String.ofList lexeme) p))
  | .literal value => some (n.push (Tree.literal value (String.ofList lexeme) p))
  | .mark joint =>
    match lexeme with
    | [c] => some (n.push (Tree.mark c joint p))
    | _ => none

end Nest

/-- Reads `cs`, which begins at `p`. The fuel is the length of the text, for no piece is empty. -/
def treesFrom : (fuel : Nat) → Position → Nest → List Char → Option (List Tree)
  | _, _, n, [] => if n.outer.isEmpty then some n.inner.reverse else none
  | 0, _, _, _ :: _ => none
  | fuel + 1, p, n, cs =>
    match piece? cs with
    | none => none
    | some (piece, lexeme) =>
      match n.add? p piece lexeme with
      | none => none
      | some n => treesFrom fuel (p.after lexeme) n (cs.drop lexeme.length)

def ofChars? (cs : List Char) : Option (List Tree) :=
  match cs with
  | '\ufeff' :: rest => treesFrom rest.length ⟨1, 1⟩ ⟨[], []⟩ rest
  | cs => treesFrom cs.length .start ⟨[], []⟩ cs

def ofText? (s : String) : Option (List Tree) := ofChars? s.toList

def skipBlank : (fuel : Nat) → List Char → List Char
  | 0, cs => cs
  | fuel + 1, cs =>
    match piece? cs with
    | some (.blank, lexeme) => skipBlank fuel (cs.drop lexeme.length)
    | _ => cs

/-- The trees of a file. A byte order mark in front counts for nothing, nor does a first line that
begins with `#!` and no inner attribute. -/
def ofFile? (s : String) : Option (List Tree) :=
  let cs := match s.toList with
    | '\ufeff' :: rest => rest
    | cs => cs
  match cs with
  | '#' :: '!' :: rest =>
    if startsWith ['['] (skipBlank rest.length rest) then ofChars? cs
    else ofChars? (cs.dropWhile (· ≠ '\n'))
  | cs => ofChars? cs

end Tree
end Bindwright.Source
