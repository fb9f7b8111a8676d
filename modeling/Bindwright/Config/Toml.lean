import Bindwright.Config.Document
import Bindwright.Text.Affix

namespace Bindwright.Config.Toml

open Text

abbrev Reader := StateT (List Char) Option

def isBlank (c : Char) : Bool := c = ' ' || c = '\t'

def isPlain (c : Char) : Bool := c = '\t' || (0x20 ≤ c.toNat && c.toNat ≠ 0x7F)

def isBareKey (c : Char) : Bool := c.isAlphanum || c = '_' || c = '-'

def take (p : Char → Bool) : Reader (List Char) := do
  let cs ← get
  let taken := cs.takeWhile p
  set (cs.drop taken.length)
  return taken

def skipBlank : Reader Unit := do let _ ← take isBlank

def skip? (s : String) : Reader Bool := do
  match afterPrefix? s.toList (← get) with
  | some rest => set rest; return true
  | none => return false

def skip (s : String) : Reader Unit := do
  if !(← skip? s) then failure

def atEnd : Reader Bool := return (← get).isEmpty

def newline? : Reader Bool := do
  if ← skip? "\n" then return true else skip? "\r\n"

def skipComment : Reader Unit := do
  if ← skip? "#" then let _ ← take isPlain

def endLine : Reader Unit := do
  skipBlank
  skipComment
  if !(← newline?) then
    if !(← atEnd) then failure

def skipLinesUpTo : (fuel : Nat) → Reader Unit
  | 0 => return
  | fuel + 1 => do
    skipBlank
    skipComment
    if ← newline? then skipLinesUpTo fuel

def skipLines : Reader Unit := do skipLinesUpTo ((← get).length + 1)

def hexDigit? (c : Char) : Option Nat :=
  if c.isDigit then some (c.toNat - '0'.toNat)
  else if 'a' ≤ c ∧ c ≤ 'f' then some (c.toNat - 'a'.toNat + 10)
  else if 'A' ≤ c ∧ c ≤ 'F' then some (c.toNat - 'A'.toNat + 10)
  else none

def codePoint? (digits : List Char) : Option Char := do
  let n := (← digits.mapM hexDigit?).foldl (fun n d => 16 * n + d) 0
  if h : n.isValidChar then some (Char.ofNatAux n h) else none

def escape? : List Char → Option (Char × List Char)
  | 'b' :: cs => some ('\x08', cs)
  | 't' :: cs => some ('\t', cs)
  | 'n' :: cs => some ('\n', cs)
  | 'f' :: cs => some ('\x0c', cs)
  | 'r' :: cs => some ('\r', cs)
  | '"' :: cs => some ('"', cs)
  | '\\' :: cs => some ('\\', cs)
  | 'u' :: cs => if cs.length < 4 then none else (codePoint? (cs.take 4)).map (·, cs.drop 4)
  | 'U' :: cs => if cs.length < 8 then none else (codePoint? (cs.take 8)).map (·, cs.drop 8)
  | _ => none

structure Quoting where
  quote : Char
  escapes : Bool
  lines : Bool

def afterLineEnd? (cs : List Char) : Option (List Char) :=
  match cs.dropWhile isBlank with
  | '\n' :: rest | '\r' :: '\n' :: rest =>
    some (rest.dropWhile fun c => isBlank c || c = '\n' || c = '\r')
  | _ => none

/-- The rest of a text and what follows its end. Two quotes more may stand before the quotes that
end a text of several lines. The fuel is the length of the text. -/
def body? (q : Quoting) : (fuel : Nat) → List Char → Option (List Char × List Char)
  | _, [] => none
  | 0, _ => none
  | fuel + 1, c :: cs =>
    let go (text rest : List Char) : Option (List Char × List Char) :=
      (body? q fuel rest).map fun (more, rest) => (text ++ more, rest)
    if c = q.quote then
      if q.lines then
        let quotes := (c :: cs).takeWhile (· = c)
        let rest := cs.drop (quotes.length - 1)
        if quotes.length < 3 then go quotes rest
        else
          let further := min (quotes.length - 3) 2
          some (List.replicate further c, (c :: cs).drop (further + 3))
      else some ([], cs)
    else if c = '\\' ∧ q.escapes then
      match escape? cs, if q.lines then afterLineEnd? cs else none with
      | some (c, rest), _ => go [c] rest
      | none, some rest => go [] rest
      | none, none => none
    else if isPlain c then go [c] cs
    else if q.lines then
      match c, cs with
      | '\n', rest | '\r', '\n' :: rest => go ['\n'] rest
      | _, _ => none
    else none

def quotings : List (String × Quoting) :=
  [("\"\"\"", ⟨'"', true, true⟩), ("\"", ⟨'"', true, false⟩),
   ("'''", ⟨'\'', false, true⟩), ("'", ⟨'\'', false, false⟩)]

def quotedText (forKey : Bool) : Reader String := do
  let cs ← get
  match quotings.find? fun (start, q) => (!forKey || !q.lines) && startsWith start.toList cs with
  | some (start, q) =>
    skip start
    -- A line end right after the opening quotes is not part of the text.
    if q.lines then let _ ← newline?
    let cs ← get
    match body? q cs.length cs with
    | some (text, rest) => set rest; return String.ofList text
    | none => failure
  | none => failure

def simpleKey : Reader String := do
  match ← get with
  | '"' :: _ | '\'' :: _ => quotedText true
  | _ =>
    let name ← take isBareKey
    if name.isEmpty then failure else return String.ofList name

def keyUpTo : (fuel : Nat) → Reader (List String)
  | 0 => failure
  | fuel + 1 => do
    skipBlank
    let name ← simpleKey
    skipBlank
    if ← skip? "." then return name :: (← keyUpTo fuel) else return [name]

def key : Reader (List String) := do keyUpTo ((← get).length + 1)

def elementsUpTo (value : Reader Node) : (fuel : Nat) → Reader (List Node)
  | 0 => failure
  | fuel + 1 => do
    skipLines
    if ← skip? "]" then return []
    let node ← value
    skipLines
    if ← skip? "," then return node :: (← elementsUpTo value fuel)
    skip "]"
    return [node]

def pairsUpTo (value : Reader Node) : (fuel : Nat) → Reader (List (List String × Node))
  | 0 => failure
  | fuel + 1 => do
    let name ← key
    skip "="
    skipBlank
    let node ← value
    skipBlank
    if ← skip? "," then return (name, node) :: (← pairsUpTo value fuel)
    skip "\x7d"
    return [(name, node)]

def valueUpTo : (fuel : Nat) → Reader Node
  | 0 => failure
  | fuel + 1 => do
    let length := (← get).length
    if ← skip? "[" then return .list (← elementsUpTo (valueUpTo fuel) (length + 1))
    if ← skip? "\x7b" then
      skipBlank
      if ← skip? "\x7d" then return .table .value .empty
      let pairs ← pairsUpTo (valueUpTo fuel) (length + 1)
      match ofPairs pairs with
      | some entries => return .table .value entries
      | none => failure
    return .text (← quotedText false)

def line : Reader Line := do
  if ← skip? "[[" then
    let path ← key
    skip "]]"
    return .element path
  if ← skip? "[" then
    let path ← key
    skip "]"
    return .header path
  let name ← key
  skip "="
  skipBlank
  -- No value nests deeper than the text is long.
  return .assign name (← valueUpTo ((← get).length + 1))

def linesUpTo : (fuel : Nat) → Reader (List Line)
  | 0 => failure
  | fuel + 1 => do
    skipLines
    if ← atEnd then return []
    let first ← line
    endLine
    return first :: (← linesUpTo fuel)

def entries? (text : String) : Option Entries := do
  let cs := match text.toList with
    | '\ufeff' :: cs => cs
    | cs => cs
  -- Every turn but the last reads a line that is not empty.
  let (lines, _) ← linesUpTo (cs.length + 1) cs
  ofLines [] .empty lines

end Bindwright.Config.Toml
