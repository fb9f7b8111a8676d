import Bindwright.Source.Tree

/-!
Readers of token trees. A reader consumes trees from the front and writes what it read in the
canonical form: the tokens one by one, multi-character marks as one token, arguments in their
canonical order. A reader that fails has consumed and written nothing.
-/

namespace Bindwright.Source

open Text

structure Cursor where
  rest : List Tree
  -- The canonical tokens, last first.
  written : List String

abbrev Reader := StateT Cursor Option

structure Name where
  text : String
  position : Position
  deriving DecidableEq, Repr

def reservedWords : List String :=
  ["_", "abstract", "as", "async", "await", "become", "box", "break", "const", "continue", "crate",
   "do", "dyn", "else", "enum", "extern", "false", "final", "fn", "for", "if", "impl", "in", "let",
   "loop", "macro", "match", "mod", "move", "mut", "override", "priv", "pub", "ref", "return",
   "Self", "self", "static", "struct", "super", "trait", "true", "try", "type", "typeof", "unsafe",
   "unsized", "use", "virtual", "where", "while", "yield"]

def startsWord (s : String) : List Tree → Bool
  | .word t _ :: _ => t = s
  | _ => false

def startsAnyWord (ss : List String) : List Tree → Bool
  | .word t _ :: _ => ss.contains t
  | _ => false

def startsIdentifier : List Tree → Bool
  | .word t _ :: _ => !reservedWords.contains t
  | _ => false

def startsLifetime : List Tree → Bool
  | .lifetime .. :: _ => true
  | _ => false

def startsGroup (d : Delimiter) : List Tree → Bool
  | .group e _ _ :: _ => d = e
  | _ => false

def afterMarks? : List Char → List Tree → Option (List Tree)
  | [], ts => some ts
  | c :: cs, .mark d joint _ :: ts => if c = d ∧ (joint ∨ cs = []) then afterMarks? cs ts else none
  | _ :: _, _ => none

def startsMarks (s : String) (ts : List Tree) : Bool := (afterMarks? s.toList ts).isSome

def startsLiteral : List Tree → Bool
  | .literal .. :: _ => true
  | .mark '-' _ _ :: .literal .. :: _ => true
  | .word t _ :: _ => t = "true" || t = "false"
  | _ => false

namespace Reader

variable {α : Type}

def sees (p : List Tree → Bool) : Reader Bool := return p (← get).rest

def seesWord (s : String) : Reader Bool := sees (startsWord s)

def seesMarks (s : String) : Reader Bool := sees (startsMarks s)

def atEnd : Reader Bool := sees List.isEmpty

def write (s : String) : Reader Unit := modify fun c => { c with written := s :: c.written }

def passTo (rest : List Tree) (s : String) : Reader Unit := fun c => some ((), ⟨rest, s :: c.written⟩)

def captured (r : Reader α) : Reader (α × List String) := fun c =>
  (r ⟨c.rest, []⟩).map fun (a, d) => ((a, d.written.reverse), ⟨d.rest, c.written⟩)

def writeAll (ss : List String) : Reader Unit :=
  modify fun c => { c with written := ss.reverse ++ c.written }

def whenSees (p : List Tree → Bool) (r : Reader Unit) : Reader Unit := do
  if ← sees p then r

def anyWord : Reader Name := do
  match (← get).rest with
  | .word t p :: rest => passTo rest t; return ⟨t, p⟩
  | _ => failure

def identifier : Reader Name := do
  if ← sees startsIdentifier then anyWord else failure

def word (s : String) : Reader Unit := do
  if ← seesWord s then let _ ← anyWord else failure

def marks (s : String) : Reader Unit := do
  match afterMarks? s.toList (← get).rest with
  | some rest => passTo rest s
  | none => failure

def lifetime : Reader Unit := do
  match (← get).rest with
  | .lifetime t _ :: rest => passTo rest t
  | _ => failure

def literal : Reader Literal := do
  match (← get).rest with
  | .literal value t _ :: rest => passTo rest t; return value
  | _ => failure

def skipWord (s : String) : Reader Bool := do
  if ← seesWord s then word s; return true else return false

def skipMarks (s : String) : Reader Bool := do
  if ← seesMarks s then marks s; return true else return false

def inside (d : Delimiter) (r : Reader α) : Reader α := do
  match (← get).rest with
  | .group e content _ :: rest =>
    if d = e then
      match r ⟨content, []⟩ with
      | some (a, ⟨[], written⟩) =>
        passTo rest (d.enclose (" ".intercalate written.reverse))
        return a
      | _ => failure
    else failure
  | _ => failure

def content (d : Delimiter) : Reader (List Tree) := do
  match (← get).rest with
  | t@(.group e content _) :: rest => if d = e then passTo rest t.text; return content else failure
  | _ => failure

def anyContent : Reader (Delimiter × List Tree) := do
  match (← get).rest with
  | .group d _ _ :: _ => return (d, ← content d)
  | _ => failure

/-- Reads with `r` until `stop` holds. The fuel is one more than the number of trees. -/
def manyUpTo (stop : List Tree → Bool) (r : Reader α) : (fuel : Nat) → Reader (List α)
  | 0 => failure
  | fuel + 1 => do
    if ← sees stop then return []
    let a ← r
    return a :: (← manyUpTo stop r fuel)

def many (stop : List Tree → Bool) (r : Reader α) : Reader (List α) := do
  manyUpTo stop r ((← get).rest.length + 1)

def separatedUpTo (stop : List Tree → Bool) (separator : String) (r : Reader α) :
    (fuel : Nat) → Reader (List α)
  | 0 => failure
  | fuel + 1 => do
    if ← sees stop then return []
    let a ← r
    if ← sees stop then return [a]
    marks separator
    return a :: (← separatedUpTo stop separator r fuel)

def separated (stop : List Tree → Bool) (separator : String) (r : Reader α) : Reader (List α) := do
  separatedUpTo stop separator r ((← get).rest.length + 1)

def commas (r : Reader α) : Reader (List α) := separated List.isEmpty "," r

def before (stop : List Tree → Bool) : List Tree → List Tree
  | [] => []
  | t :: ts => if stop (t :: ts) then [] else t :: before stop ts

def skipUntil (stop : List Tree → Bool) : Reader Unit := do
  let rest := (← get).rest
  let skipped := before stop rest
  if !skipped.isEmpty then passTo (rest.drop skipped.length) (Tree.spaced skipped)

end Reader
end Bindwright.Source
