import Bindwright.Text.Affix
import Bindwright.Text.Character
import Bindwright.Text.Identifier

namespace Bindwright.Source

open Text

inductive Literal where
  | text (value : String)
  | integer (value : Nat)
  | other
  deriving DecidableEq, Repr

namespace Literal

def digit? (c : Char) : Option Nat :=
  if c.isDigit then some (c.toNat - '0'.toNat)
  else if 'a' ≤ c ∧ c ≤ 'f' then some (c.toNat - 'a'.toNat + 10)
  else if 'A' ≤ c ∧ c ≤ 'F' then some (c.toNat - 'A'.toNat + 10)
  else none

/-- What a kind of quoted literal may hold: numeric escapes above `\x7F`, characters beyond ASCII,
and the null character. -/
structure Alphabet where
  wide : Bool
  unicode : Bool
  null : Bool

namespace Alphabet

def characters : Alphabet := ⟨false, true, true⟩
def bytes : Alphabet := ⟨true, false, true⟩
def terminated : Alphabet := ⟨true, true, false⟩

def allows (a : Alphabet) (c : Char) : Bool :=
  (a.unicode || c.toNat < 0x80) && (a.null || c.toNat ≠ 0)

end Alphabet

def codePoint? : (digits value : Nat) → List Char → Option (Char × List Char)
  | _, _, [] => none
  | n, v, c :: cs =>
    if c = '_' ∧ 0 < n then codePoint? n v cs
    else if c = '\x7d' ∧ 0 < n then
      if h : v.isValidChar then some (Char.ofNatAux v h, cs) else none
    else
      match digit? c with
      | some d => if n < 6 then codePoint? (n + 1) (16 * v + d) cs else none
      | none => none

def escape? (a : Alphabet) : List Char → Option (Char × List Char)
  | 'x' :: high :: low :: rest => do
    let n := 16 * (← digit? high) + (← digit? low)
    if n < 0x80 ∨ a.wide then
      if n = 0 ∧ !a.null then none else some (Char.ofNat n, rest)
    else none
  | 'u' :: '\x7b' :: rest => do
    let (c, rest) ← codePoint? 0 0 rest
    if a.unicode ∧ (a.null ∨ c.toNat ≠ 0) then some (c, rest) else none
  | 'n' :: rest => some ('\n', rest)
  | 'r' :: rest => some ('\r', rest)
  | 't' :: rest => some ('\t', rest)
  | '\\' :: rest => some ('\\', rest)
  | '\'' :: rest => some ('\'', rest)
  | '"' :: rest => some ('"', rest)
  | '0' :: rest => if a.null then some ('\x00', rest) else none
  | _ => none

/-- What the text between quotes stands for. A line that ends in a backslash goes on with the first
character of the next that is no white space, and every other line ends with a line feed. The fuel
is the length of the text. -/
def unescape? (a : Alphabet) : (fuel : Nat) → List Char → Option (List Char)
  | _, [] => some []
  | 0, _ :: _ => none
  | n + 1, c :: cs =>
    match c, cs with
    | '\\', '\n' :: rest => unescape? a n (rest.dropWhile isBlank)
    | '\\', '\r' :: rest => unescape? a n (rest.dropWhile isBlank)
    | '\\', cs => do
      let (c, rest) ← escape? a cs
      return c :: (← unescape? a n rest)
    | '\r', '\n' :: rest => do return '\n' :: (← unescape? a n rest)
    | c, cs => do if a.allows c then return c :: (← unescape? a n cs) else none

def endsLines : List Char → Bool
  | [] => true
  | '\r' :: '\n' :: cs => endsLines cs
  | '\r' :: _ => false
  | _ :: cs => endsLines cs

def cookedBody? : List Char → Option (List Char)
  | [] => none
  | '"' :: _ => some []
  | '\\' :: c :: cs => (cookedBody? cs).map fun b => '\\' :: c :: b
  | c :: cs => (cookedBody? cs).map (c :: ·)

def rawBody? (hashes : List Char) : List Char → Option (List Char)
  | [] => none
  | c :: cs =>
    if c = '"' ∧ startsWith hashes cs then some [] else (rawBody? hashes cs).map (c :: ·)

def withSuffix (lexeme rest : List Char) : List Char := lexeme ++ (identifier? rest).getD []

def cooked? (a : Alphabet) (opening cs : List Char) : Option (List Char × List Char) := do
  let body ← cookedBody? cs
  if endsLines body then
    let value ← unescape? a body.length body
    return (value, withSuffix (opening ++ body ++ ['"']) (cs.drop (body.length + 1)))
  else none

def raw? (a : Alphabet) (opening cs : List Char) : Option (List Char × List Char) := do
  let hashes := cs.takeWhile (· = '#')
  match cs.drop hashes.length with
  | '"' :: rest =>
    let body ← rawBody? hashes rest
    if hashes.length ≤ 255 ∧ endsLines body ∧ body.all a.allows then
      let lexeme := opening ++ hashes ++ '"' :: body ++ '"' :: hashes
      return (body, withSuffix lexeme (rest.drop (body.length + 1 + hashes.length)))
    else none
  | _ => none

def quotedChar? (a : Alphabet) (opening cs : List Char) : Option (List Char) := do
  let rest ← match cs with
    | '\\' :: cs => (escape? a cs).map (·.2)
    | c :: cs => if a.unicode ∨ c.toNat < 0x80 then some cs else none
    | [] => none
  match rest with
  | '\'' :: rest => return withSuffix (opening ++ cs.take (cs.length - rest.length)) rest
  | _ => none

def startsIdentifierText : List Char → Bool
  | [] => false
  | c :: _ => startsIdentifier c

def continuesIdentifierText : List Char → Bool
  | [] => false
  | c :: _ => continuesIdentifier c

/-- The digits of a number with at most one point among them: their text, whether they hold a
point, and what follows. A point that begins a range or a field's name leaves no such number. -/
def mantissa? : (point : Bool) → List Char → Option (List Char × Bool × List Char)
  | point, [] => some ([], point, [])
  | point, c :: cs =>
    if c.isDigit ∨ c = '_' then
      (mantissa? point cs).map fun (lexeme, point, rest) => (c :: lexeme, point, rest)
    else if c = '.' ∧ !point then
      if startsIdentifierText cs ∨ startsWith ['.'] cs then none
      else (mantissa? true cs).map fun (lexeme, point, rest) => (c :: lexeme, point, rest)
    else some ([], point, c :: cs)

def exponent? : (sign digits : Bool) → List Char → Option (List Char)
  | _, digits, [] => if digits then some [] else none
  | sign, digits, c :: cs =>
    if c.isDigit then (exponent? sign true cs).map (c :: ·)
    else if c = '_' then (exponent? sign digits cs).map (c :: ·)
    else if digits then some []
    else if (c = '+' ∨ c = '-') ∧ !sign then (exponent? true false cs).map (c :: ·)
    else none

def closed? (lexeme rest : List Char) : Option (List Char) :=
  if continuesIdentifierText rest ∧ !startsIdentifierText rest then none
  else some (withSuffix lexeme rest)

def float? (cs : List Char) : Option (List Char) := do
  let (front, point, rest) ← mantissa? false cs
  let full : Option (List Char) :=
    match rest with
    | c :: rest => if c = 'e' ∨ c = 'E' then (exponent? false false rest).map (c :: ·) else none
    | [] => none
  let lexeme ← match full with
    | some exponent => some (front ++ exponent)
    | none => if point then some front else none
  closed? lexeme (cs.drop lexeme.length)

def digits? (base : Nat) : (value : Nat) → (empty : Bool) → List Char → Option (List Char × Nat)
  | value, empty, [] => if empty then none else some ([], value)
  | value, empty, c :: cs =>
    let next (value : Nat) (empty : Bool) :=
      (digits? base value empty cs).map fun (lexeme, value) => (c :: lexeme, value)
    if c = '_' then if empty ∧ base = 10 then none else next value empty
    else
      match digit? c with
      | some d =>
        if d < base then next (base * value + d) false
        else if c.isDigit ∨ empty then none
        else some ([], value)
      | none => if empty then none else some ([], value)

def integer? (cs : List Char) : Option (Nat × List Char) := do
  let (start, base) : List Char × Nat := match cs with
    | '0' :: 'x' :: _ => (['0', 'x'], 16)
    | '0' :: 'o' :: _ => (['0', 'o'], 8)
    | '0' :: 'b' :: _ => (['0', 'b'], 2)
    | _ => ([], 10)
  let (figures, value) ← digits? base 0 true (cs.drop start.length)
  let lexeme := start ++ figures
  return (value, ← closed? lexeme (cs.drop lexeme.length))

def number? (cs : List Char) : Option (Literal × List Char) :=
  match cs with
  | c :: _ =>
    if c.isDigit then
      match float? cs with
      | some lexeme => some (.other, lexeme)
      | none => (integer? cs).map fun (value, lexeme) => (.integer value, lexeme)
    else none
  | [] => none

def ofText? (cs : List Char) : Option (Literal × List Char) :=
  let text := fun (value, lexeme) => (Literal.text (String.ofList value), lexeme)
  let other := fun ((_, lexeme) : List Char × List Char) => (Literal.other, lexeme)
  match cs with
  | '"' :: rest => (cooked? .characters ['"'] rest).map text
  | 'r' :: rest => (raw? .characters ['r'] rest).map text
  | 'b' :: '"' :: rest => (cooked? .bytes ['b', '"'] rest).map other
  | 'b' :: 'r' :: rest => (raw? .bytes ['b', 'r'] rest).map other
  | 'c' :: '"' :: rest => (cooked? .terminated ['c', '"'] rest).map other
  | 'c' :: 'r' :: rest => (raw? .terminated ['c', 'r'] rest).map other
  | 'b' :: '\'' :: rest => (quotedChar? .bytes ['b', '\''] rest).map (.other, ·)
  | '\'' :: rest => (quotedChar? .characters ['\''] rest).map (.other, ·)
  | cs => number? cs

end Literal
end Bindwright.Source
