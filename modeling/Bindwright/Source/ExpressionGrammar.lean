import Bindwright.Source.TypeGrammar

namespace Bindwright.Source.Grammar

open Reader

variable (g : Grammar)

def block : Reader (Option Int) := do
  match g.statements ⟨← content .brace, []⟩ with
  | some (value, ⟨[], _⟩) => return value
  | _ => failure

/-- Integers are kept as long as 63 bits hold them. -/
def literalValue : Literal → Option Int
  | .integer n => if n < 9223372036854775808 then some n else none
  | _ => none

def endsOperand (records : Bool) (ts : List Tree) : Bool :=
  ts.isEmpty || startsMarks "," ts || startsMarks ";" ts || startsMarks "=>" ts ||
    startsMarks "?" ts || (startsMarks "." ts && !startsMarks ".." ts) ||
    (!records && startsGroup .brace ts)

def optionalOperand (records : Bool) : Reader Unit := do
  if !(← sees (endsOperand records)) then let _ ← g.expression records

def parenthesized : Reader (Option Int) := inside .parenthesis do
  if ← atEnd then return none
  let value ← g.expression true
  if ← atEnd then return value
  marks ","
  let _ ← commas (g.expression true)
  return none

def array : Reader (Option Int) := inside .bracket do
  if ← atEnd then return none
  let _ ← g.expression true
  if ← skipMarks ";" then let _ ← g.expression true
  else if !(← atEnd) then
    marks ","
    let _ ← commas (g.expression true)
  return none

def field : Reader Unit := do
  let _ ← g.attributes
  if ← skipMarks ".." then
    if !(← atEnd) then let _ ← g.expression true
  else
    if ← sees startsLiteral then let _ ← literal else let _ ← identifier
    if ← skipMarks ":" then let _ ← g.expression true

def pathOperand (records : Bool) : Reader (Option Int) := do
  if ← seesMarks "<" then
    let _ ← g.qualifiedPath true
  else
    let _ ← g.path true
    if ← sees fun ts => startsMarks "!" ts && !startsMarks "!=" ts then
      marks "!"
      let _ ← anyContent
      return none
  if ← sees fun ts => records && startsGroup .brace ts then
    let _ ← inside .brace (commas g.field)
  return none

def closure (records : Bool) : Reader (Option Int) := do
  let _ ← g.binder
  for w in ["const", "static", "async", "move"] do
    let _ ← skipWord w
  marks "|"
  skipUntil (startsMarks "|")
  marks "|"
  if ← skipMarks "->" then
    let _ ← g.type false
    let _ ← g.block
  else
    let _ ← g.expression records
  return none

def conditional : Reader (Option Int) := do
  word "if"
  let _ ← g.expression false
  let _ ← g.block
  if ← skipWord "else" then
    if ← seesWord "if" then let _ ← g.operand true else let _ ← g.block
  return none

def loop : Reader (Option Int) := do
  if ← skipWord "while" then let _ ← g.expression false
  else if ← skipWord "for" then
    skipUntil (startsWord "in")
    word "in"
    let _ ← g.expression false
  else word "loop"
  let _ ← g.block
  return none

def labelled : Reader (Option Int) := do
  lifetime
  marks ":"
  if ← sees (startsGroup .brace) then g.block else g.loop

def keywordOperand (records : Bool) : Reader (Option Int) := do
  if ← seesWord "if" then g.conditional
  else if ← sees (startsAnyWord ["while", "for", "loop"]) then g.loop
  else if ← skipWord "match" then
    let _ ← g.expression false
    let _ ← content .brace
    return none
  else if ← skipWord "let" then
    skipUntil fun ts => startsMarks "=" ts && !startsMarks "==" ts
    marks "="
    let _ ← g.operand false
    return none
  else if ← sees (startsAnyWord ["return", "yield"]) then
    let _ ← anyWord
    g.optionalOperand records
    return none
  else if ← sees (startsAnyWord ["break", "continue"]) then
    let _ ← anyWord
    whenSees startsLifetime lifetime
    g.optionalOperand records
    return none
  else
    let _ ← anyWord
    let _ ← skipWord "move"
    let _ ← g.block
    return none

def startsClosure : List Tree → Bool
  | .mark '|' _ _ :: _ => true
  | .word "for" _ :: ts => startsMarks "<" ts
  | .word w _ :: ts =>
    ["const", "static", "async", "move"].contains w &&
      (startsMarks "|" ts || startsAnyWord ["static", "async", "move"] ts &&
        (startsMarks "|" (ts.drop 1) || startsWord "move" (ts.drop 1) && startsMarks "|" (ts.drop 2)))
  | _ => false

def operandKeywords : List String :=
  ["if", "while", "for", "loop", "match", "let", "return", "yield", "break", "continue", "unsafe",
   "const", "async"]

def atom (records : Bool) : Reader (Option Int) := do
  if ← sees fun ts => startsLiteral ts && !startsMarks "-" ts then
    if ← sees (startsAnyWord ["true", "false"]) then
      let _ ← anyWord
      return none
    return literalValue (← literal)
  if ← sees (startsGroup .parenthesis) then return ← g.parenthesized
  if ← sees (startsGroup .bracket) then return ← g.array
  if ← sees (startsGroup .brace) then return ← g.block
  if ← sees startsClosure then return ← g.closure records
  if ← sees startsLifetime then return ← g.labelled
  if ← sees (startsAnyWord operandKeywords) then return ← g.keywordOperand records
  if ← skipWord "_" then return none
  g.pathOperand records

def startsSuffix (ts : List Tree) : Bool :=
  startsGroup .parenthesis ts || startsGroup .bracket ts || startsMarks "?" ts ||
    (startsMarks "." ts && !startsMarks ".." ts)

def suffix : Reader Unit := do
  if ← sees (startsGroup .parenthesis) then
    let _ ← inside .parenthesis (commas (g.expression true))
  else if ← sees (startsGroup .bracket) then
    let _ ← inside .bracket (g.expression true)
  else if ← seesMarks "?" then marks "?"
  else
    marks "."
    if ← sees startsLiteral then let _ ← literal
    else
      let _ ← anyWord
      if ← seesMarks "::" then let _ ← g.arguments

def operandReader (records : Bool) : Reader (Option Int) := do
  let _ ← g.attributes
  if ← skipMarks "-" then return (← g.operand records).map (- ·)
  if ← seesMarks "!=" then failure
  if ← sees fun ts => startsMarks "!" ts || startsMarks "*" ts then
    let _ ← skipMarks "!" <||> skipMarks "*"
    let _ ← g.operand records
    return none
  if ← skipMarks "&" then
    if ← sees fun ts => startsWord "raw" ts && startsAnyWord ["const", "mut"] (ts.drop 1) then
      word "raw"
      let _ ← anyWord
    else
      let _ ← skipWord "mut"
    let _ ← g.operand records
    return none
  let value ← g.atom records
  let suffixes ← many (!startsSuffix ·) g.suffix
  return if suffixes.isEmpty then value else none

/-- The marks between operands. Each stands before those that it begins with. -/
def operators : List String :=
  ["<<=", ">>=", "..=", "...", "..", "&&", "||", "<<", ">>", "+=", "-=", "*=", "/=", "%=", "^=",
   "&=", "|=", "==", "!=", "<=", ">=", "+", "-", "*", "/", "%", "^", "&", "|", "<", ">", "="]

def operator? (ts : List Tree) : Option String :=
  if startsMarks "=>" ts then none else operators.find? (startsMarks · ts)

def comparisons : List String := ["==", "!=", "<=", ">=", "<", ">"]

def looseOperators : List String :=
  ["&&", "||", "..", "..=", "...", "=", "<<=", ">>=", "+=", "-=", "*=", "/=", "%=", "^=", "&=",
   "|="]

def chainsComparisons : (compared : Bool) → List String → Bool
  | _, [] => false
  | compared, op :: ops =>
    if comparisons.contains op then compared || chainsComparisons true ops
    else chainsComparisons (compared && !looseOperators.contains op) ops

def continuation (records : Bool) : Reader String := do
  if ← skipWord "as" then
    let _ ← g.type false
    return "as"
  match operator? (← get).rest with
  | some op =>
    marks op
    if [".." , "..=", "..."].contains op then
      if !(← sees (endsOperand records)) then let _ ← g.operand records
    else
      let _ ← g.operand records
    return op
  | none => failure

def afterOperand (records : Bool) (value : Option Int) : Reader (Option Int) := do
  let ops ← many (fun ts => !startsWord "as" ts && (operator? ts).isNone) (g.continuation records)
  if chainsComparisons false ops then failure
  return if ops.all (· = "as") then value else none

def expressionReader (records : Bool) : Reader (Option Int) := do
  let startsRange (ts : List Tree) : Bool := startsMarks ".." ts
  let value ← if ← sees startsRange then pure none else g.operand records
  g.afterOperand records value

def startsBlockForm (ts : List Tree) : Bool :=
  startsAnyWord ["if", "while", "loop", "match", "unsafe"] ts || startsLifetime ts ||
    startsGroup .brace ts || (startsWord "for" ts && !startsMarks "<" (ts.drop 1)) ||
    (startsWord "const" ts && startsGroup .brace (ts.drop 1))

def continuesOperand (ts : List Tree) : Bool :=
  startsMarks "?" ts || (startsMarks "." ts && !startsMarks ".." ts)

def expressionStatement : Reader (Bool × Option Int) := do
  if !(← sees startsBlockForm) then return (true, ← g.expression true)
  let value ← g.atom true
  if !(← sees continuesOperand) then return (false, value)
  let _ ← many (!startsSuffix ·) g.suffix
  let _ ← g.afterOperand true none
  return (true, none)

def localStatement : Reader Unit := do
  word "let"
  g.pattern
  if ← skipMarks ":" then let _ ← g.type true
  if ← skipMarks "=" then
    let _ ← g.expression true
    if ← skipWord "else" then let _ ← g.block
  marks ";"

def afterMacro? (ts : List Tree) : Option (List Tree) :=
  match modulePath ⟨ts, []⟩ with
  | some (_, ⟨rest, _⟩) =>
    if startsMarks "!" rest ∧ !startsMarks "!=" rest then some (rest.drop 1) else none
  | none => none

def startsMacroBlock (ts : List Tree) : Bool :=
  (afterMacro? ts).any fun rest => startsGroup .brace rest && !continuesOperand (rest.drop 1)

def startsItem (ts : List Tree) : Bool :=
  let second := ts.drop 1
  startsAnyWord ["pub", "extern", "use", "fn", "mod", "type", "struct", "enum", "trait", "impl",
    "macro"] ts ||
  (startsWord "static" ts && (startsWord "mut" second || startsIdentifier second)) ||
  (startsWord "const" ts && !(startsGroup .brace second || startsAnyWord ["static", "move"] second ||
    startsMarks "|" second || startsWord "async" second &&
      !startsAnyWord ["unsafe", "extern", "fn"] (ts.drop 2))) ||
  (startsWord "unsafe" ts && !startsGroup .brace second) ||
  (startsWord "async" ts && startsAnyWord ["unsafe", "extern", "fn"] second) ||
  (startsWord "union" ts && startsIdentifier second) ||
  (startsWord "auto" ts && startsWord "trait" second) ||
  (startsWord "default" ts && startsAnyWord ["unsafe", "impl"] second) ||
  (afterMacro? ts).any fun rest => startsIdentifier rest || startsWord "try" rest

/-- A statement: whether nothing may follow it but the end of the block, and its integer if it is
an expression without a semicolon. -/
def statement : Reader (Bool × Option Int) := do
  let _ ← g.attributes
  if ← sees startsMacroBlock then
    let _ ← modulePath
    marks "!"
    let _ ← content .brace
    let _ ← skipMarks ";"
    return (false, none)
  if ← seesWord "let" then
    g.localStatement
    return (false, none)
  if ← sees startsItem then
    let _ ← g.item
    return (false, none)
  let (isOpen, value) ← g.expressionStatement
  return if ← skipMarks ";" then (false, none) else (isOpen, value)

def statementsUpTo : (fuel : Nat) → Reader (Option Int)
  | 0 => failure
  | fuel + 1 => do
    let _ ← many (!startsMarks ";" ·) (marks ";")
    if ← atEnd then return none
    let (isOpen, value) ← g.statement
    if ← atEnd then return value
    if isOpen then failure
    statementsUpTo fuel

def statementsReader : Reader (Option Int) := do
  let _ ← g.innerAttributes
  g.statementsUpTo ((← get).rest.length + 1)

def alternatives : Reader Unit := do
  let _ ← skipMarks "|"
  g.pattern
  let _ ← many (!startsMarks "|" ·) do
    marks "|"
    g.pattern

def patternBound : Reader Unit := do
  let _ ← skipMarks "-"
  if ← sees startsLiteral then
    if ← sees (startsAnyWord ["true", "false"]) then let _ ← anyWord else let _ ← literal
  else if ← seesMarks "<" then let _ ← g.qualifiedPath true
  else let _ ← g.path true

def patternReader : Reader Unit := do
  if ← skipMarks "&" then
    let _ ← skipWord "mut"
    g.pattern
  else if ← sees (startsGroup .parenthesis) then
    let _ ← inside .parenthesis (commas g.alternatives)
  else if ← sees (startsGroup .bracket) then
    let _ ← inside .bracket (commas g.alternatives)
  else if ← skipWord "_" then return
  else if ← skipWord "box" then g.pattern
  else if ← seesMarks ".." then
    let _ ← skipMarks "..=" <||> skipMarks ".."
    if !(← sees fun ts => ts.isEmpty || startsMarks "," ts || startsMarks ":" ts || startsMarks "|" ts)
    then g.patternBound
  else if ← sees (startsAnyWord ["ref", "mut"]) then
    let _ ← skipWord "ref"
    let _ ← skipWord "mut"
    let _ ← if ← seesWord "self" then anyWord else identifier
    if ← skipMarks "@" then g.pattern
  else
    g.patternBound
    if ← skipMarks "@" then g.pattern
    else if ← sees (startsGroup .parenthesis) then
      let _ ← inside .parenthesis (commas g.alternatives)
    else if ← sees (startsGroup .brace) then let _ ← content .brace
    else if ← skipMarks "!" then let _ ← anyContent
    else if ← seesMarks ".." then
      let _ ← skipMarks "..=" <||> skipMarks ".."
      let _ ← optional g.patternBound

end Bindwright.Source.Grammar
