import Bindwright.Source.ExpressionGrammar

namespace Bindwright.Source

open Reader

inductive Visibility where
  | inherited
  | limited
  | everywhere
  deriving DecidableEq, Repr

namespace Grammar

variable (g : Grammar)

def limitsVisibility (ts : List Tree) : Bool :=
  (startsAnyWord ["crate", "self", "super"] ts && ts.length = 1) ||
    (startsWord "in" ts &&
      match modulePath ⟨ts.drop 1, []⟩ with
      | some (_, ⟨[], _⟩) => true
      | _ => false)

def visibility : Reader Visibility := do
  if !(← skipWord "pub") then return .inherited
  match (← get).rest with
  | .group .parenthesis ts _ :: _ =>
    if limitsVisibility ts then
      let _ ← content .parenthesis
      return .limited
    return .everywhere
  | _ => return .everywhere

inductive Parameter where
  | receiver
  | typed (type : TypeForm)
  | further

def Parameter.type? : Parameter → Option TypeForm
  | typed type => some type
  | _ => none

def receiver : Reader Parameter := do
  let isReference ← skipMarks "&"
  if isReference then whenSees startsLifetime lifetime
  let _ ← skipWord "mut"
  word "self"
  if !isReference then
    if ← skipMarks ":" then let _ ← g.type true
  return .receiver

def typedParameter : Reader Parameter := do
  if ← sees fun ts => startsIdentifier ts && startsMarks "<" (ts.drop 1) then
    return .typed (← g.type true)
  g.pattern
  marks ":"
  if ← seesMarks "..." then
    ellipsis
    return .further
  return .typed (← g.type true)

def parameter : Reader Parameter := do
  let _ ← g.attributes
  if ← seesMarks "..." then
    ellipsis
    return .further
  g.receiver <|> g.typedParameter

def parameters : Reader (List Parameter) := inside .parenthesis do
  let ps ← commas g.parameter
  if (ps.drop 1).any fun | .receiver => true | _ => false then failure
  return ps

def signature : Reader Signature := do
  for w in ["const", "async", "unsafe"] do
    let _ ← skipWord w
  interface
  word "fn"
  let name ← identifier
  let _ ← g.generics
  let ps ← g.parameters
  let result ← g.result true
  let _ ← g.whereClause
  return ⟨name, ps.all fun | .further => true | _ => false, ps.filterMap Parameter.type?, result⟩

def startsFunction (ts : List Tree) : Bool :=
  let skip (w : String) (ts : List Tree) := if startsWord w ts then ts.drop 1 else ts
  let ts := skip "unsafe" (skip "async" (skip "const" ts))
  startsWord "fn" <| match ts with
    | .word "extern" _ :: .literal (.text _) .. :: rest | .word "extern" _ :: rest => rest
    | ts => ts

def namedField : Reader Unit := do
  let _ ← g.attributes
  let _ ← visibility
  let _ ← if ← seesWord "_" then anyWord else identifier
  marks ":"
  let _ ← g.type true

def positionalField : Reader Unit := do
  let _ ← g.attributes
  let _ ← visibility
  let _ ← g.type true

def namedFields : Reader Unit := do
  let _ ← inside .brace (commas g.namedField)

def positionalFields : Reader Unit := do
  let _ ← inside .parenthesis (commas g.positionalField)

def structureBody : Reader Unit := do
  let isConstrained ← g.whereClause
  if ← sees fun ts => !isConstrained && startsGroup .parenthesis ts then
    g.positionalFields
    let _ ← g.whereClause
    marks ";"
  else if ← sees (startsGroup .brace) then g.namedFields
  else marks ";"

def variant : Reader Unit := do
  let _ ← g.attributes
  let _ ← captured visibility
  let _ ← identifier
  if ← sees (startsGroup .brace) then g.namedFields
  else if ← sees (startsGroup .parenthesis) then g.positionalFields
  if ← skipMarks "=" then let _ ← g.expression true

def macroCall : Reader Unit := do
  let _ ← modulePath
  marks "!"
  let (d, _) ← anyContent
  if d ≠ .brace then marks ";"

/-- A constant's name, type and value; the value counts only without parameters and conditions. -/
def constantParts : Reader (Name × TypeForm × Bool × Option Int) := do
  word "const"
  let name ← if ← seesWord "_" then anyWord else identifier
  let isGeneric ← g.generics
  marks ":"
  let type ← g.type true
  let hasValue ← skipMarks "="
  let value ← if hasValue then g.expression true else pure none
  let isConstrained ← g.whereClause
  marks ";"
  return (name, type, hasValue && !isGeneric && !isConstrained, value)

def synonymParts (associated : Bool) : Reader (Name × Option TypeForm) := do
  word "type"
  let name ← identifier
  let _ ← g.generics
  let isBounded ← seesMarks ":"
  boundsAfterColon (fun ts => startsWord "where" ts || startsMarks "=" ts || startsMarks ";" ts)
    g.bound
  let isConstrained ← g.whereClause
  let type ← if ← skipMarks "=" then some <$> g.type true else pure none
  if associated ∧ !isConstrained then let _ ← g.whereClause
  marks ";"
  return (name, if isBounded then none else type)

def associatedItem : Reader AssociatedItem := do
  let _ ← g.attributes
  let v ← visibility
  let isDefault ←
    if ← sees fun ts => startsWord "default" ts && !startsMarks "!" (ts.drop 1) then
      skipWord "default"
    else pure false
  if ← sees startsFunction then
    let signature ← g.signature
    if ← skipMarks ";" then return .other
    let _ ← g.block
    return .function (v = .everywhere) signature
  if ← seesWord "const" then
    let (name, _, hasValue, _) ← g.constantParts
    return if hasValue then .constant name.text else .other
  if ← seesWord "type" then
    let _ ← g.synonymParts true
    return .other
  if v ≠ .inherited ∨ isDefault then failure
  macroCall
  return .other

def associatedItems : Reader (List Attribute × List AssociatedItem) := inside .brace do
  let attributes ← g.innerAttributes
  return (attributes, ← many List.isEmpty g.associatedItem)

/-- A tree of imports. A path from the root inside a group is allowed where `roots` says so, and
leaves nothing to be kept. The fuel bounds the depth. -/
def importTreeUpTo : (fuel : Nat) → (roots : Bool) → Reader (Option ImportTree)
  | 0, _ => failure
  | fuel + 1, roots => do
    if ← skipMarks "*" then return some .all
    if ← sees (startsGroup .brace) then
      let trees ← inside .brace <| commas do
        let isRooted ← if roots then skipMarks "::" else pure false
        let tree ← importTreeUpTo fuel (roots && !isRooted)
        return if isRooted then none else tree
      return if trees.all Option.isSome then some (.group (trees.filterMap id)) else none
    if !(← sees fun ts => startsIdentifier ts ||
        startsAnyWord ["self", "super", "crate", "try"] ts) then failure
    let name := (← anyWord).text
    if ← skipMarks "::" then
      return (← importTreeUpTo fuel false).map (.under name)
    if ← skipWord "as" then
      let new ← if ← seesWord "_" then anyWord else identifier
      return some (.renamed name new.text)
    return some (.name name)

def importItem : Reader Item := do
  word "use"
  let isRooted ← skipMarks "::"
  let fuel := Tree.sizes (before (startsMarks ";") (← get).rest)
  let tree ← importTreeUpTo (fuel + 1) !isRooted
  marks ";"
  return tree.elim .other .imports

def staticItem : Reader Item := do
  word "static"
  let _ ← skipWord "mut"
  let _ ← identifier
  if ← skipMarks ":" then
    let _ ← g.type true
    if ← skipMarks ";" then return .other
  marks "="
  let _ ← g.expression true
  marks ";"
  return .other

def externalItem : Reader Item := do
  word "extern"
  if ← skipWord "crate" then
    let _ ← if ← seesWord "self" then anyWord else identifier
    if ← skipWord "as" then let _ ← if ← seesWord "_" then anyWord else identifier
    marks ";"
  else
    whenSees (fun ts => match ts with | .literal (.text _) .. :: _ => true | _ => false) do
      let _ ← literal
    let _ ← inside .brace do
      let _ ← g.innerAttributes
      g.items
  return .other

def nestedItem : Reader Item := do
  word "mod"
  let name ← if ← seesWord "try" then anyWord else identifier
  if ← skipMarks ";" then return .other
  let items ← inside .brace do
    let _ ← g.innerAttributes
    g.items
  return .nested name.text items

def structureItem (head : Name → Head) : Reader Item := do
  word "struct"
  let name ← identifier
  let _ ← g.generics
  g.structureBody
  return .structure (head name)

def enumerationItem (head : Name → Head) : Reader Item := do
  word "enum"
  let name ← identifier
  let _ ← g.generics
  let _ ← g.whereClause
  let _ ← inside .brace (commas g.variant)
  return .enumeration (head name)

def unionItem : Reader Item := do
  word "union"
  let _ ← identifier
  let _ ← g.generics
  let _ ← g.whereClause
  g.namedFields
  return .other

def traitItem (alone : Bool) (head : Name → Head) : Reader Item := do
  let _ ← skipWord "auto"
  word "trait"
  let name ← identifier
  let _ ← g.generics
  if ← sees fun ts => alone && startsMarks "=" ts then
    marks "="
    let stop (ts : List Tree) : Bool := startsWord "where" ts || startsMarks ";" ts
    let _ ← separated stop "+" g.bound
    let _ ← g.whereClause
    marks ";"
    return .other
  boundsAfterColon (fun ts => startsWord "where" ts || startsGroup .brace ts) g.bound
  let _ ← g.whereClause
  let (inner, _) ← g.associatedItems
  let head := head name
  return .behaviour { head with attributes := head.attributes ++ inner }

def startsParameters (ts : List Tree) : Bool :=
  let second := ts.drop 1
  let third := ts.drop 2
  startsMarks "<" ts && (startsMarks ">" second || startsMarks "#" second ||
    startsWord "const" second ||
    (startsLifetime second || startsIdentifier second) &&
      (startsMarks ">" third || startsMarks "," third || startsMarks "=" third ||
        startsMarks ":" third && !startsMarks "::" third))

def implementationItem (v : Visibility) : Reader Item := do
  word "impl"
  if ← sees startsParameters then let _ ← g.generics
  let isConstant ← if ← sees fun ts => startsMarks "?" ts && startsWord "const" (ts.drop 1) then do
      marks "?"
      skipWord "const"
    else skipWord "const"
  let isNegative ←
    if ← sees fun ts => startsMarks "!" ts && !startsGroup .brace (ts.drop 1) then skipMarks "!"
    else pure false
  let first ← g.type true
  let isOfTrait ← skipWord "for"
  if isOfTrait then let _ ← g.type true
  let _ ← g.whereClause
  let (_, items) ← g.associatedItems
  if isOfTrait ∨ isConstant ∨ isNegative ∨ v ≠ .inherited then return .other
  return .implementation first items

def macroItem : Reader Item := do
  word "macro"
  let _ ← identifier
  if ← sees (startsGroup .parenthesis) then let _ ← content .parenthesis
  let _ ← content .brace
  return .other

def macroCallItem : Reader Item := do
  let _ ← modulePath
  marks "!"
  if ← seesWord "try" then let _ ← anyWord
  else if ← sees startsIdentifier then let _ ← identifier
  let (d, _) ← anyContent
  if d ≠ .brace then marks ";"
  return .other

def startsTrait (ts : List Tree) : Bool :=
  startsWord "trait" ts || startsWord "auto" ts && startsWord "trait" (ts.drop 1)

def itemReader : Reader Item := do
  let attributes ← g.attributes
  let v ← visibility
  let head : Name → Head := Head.mk attributes (v = .everywhere)
  if ← sees startsFunction then
    let signature ← g.signature
    if ← skipMarks ";" then return .other
    let value ← g.block
    return .function (head signature.name) signature value
  let isUnsafe ← skipWord "unsafe"
  if ← seesWord "extern" then return ← g.externalItem
  if ← seesWord "mod" then return ← g.nestedItem
  if ← sees startsTrait then
    return ← g.traitItem (!isUnsafe && (← seesWord "trait")) head
  if ← seesWord "impl" then return ← g.implementationItem v
  if isUnsafe then failure
  if ← seesWord "use" then return ← importItem
  if ← seesWord "static" then return ← g.staticItem
  if ← seesWord "const" then
    let (name, type, hasValue, value) ← g.constantParts
    return if hasValue then .constant (head name) type value else .other
  if ← seesWord "type" then
    let (name, type) ← g.synonymParts false
    return type.elim .other (.synonym (head name))
  if ← seesWord "struct" then return ← g.structureItem head
  if ← seesWord "enum" then return ← g.enumerationItem head
  if ← sees fun ts => startsWord "union" ts && startsIdentifier (ts.drop 1) then return ← g.unionItem
  if ← sees fun ts => startsWord "default" ts && !startsMarks "!" (ts.drop 1) then
    word "default"
    let _ ← skipWord "unsafe"
    return ← g.implementationItem v
  if ← seesWord "macro" then return ← macroItem
  if v ≠ .inherited then failure
  macroCallItem

def next : Grammar where
  type := g.typeReader
  arguments := g.argumentsReader
  operand := g.operandReader
  expression := g.expressionReader
  statements := g.statementsReader
  pattern := g.patternReader
  item := g.itemReader

def ofDepth : (depth : Nat) → Grammar
  | 0 => ⟨fun _ => failure, failure, fun _ => failure, fun _ => failure, failure, failure, failure⟩
  | depth + 1 => (ofDepth depth).next

/-- Readers for the given trees: whenever readers nest three times, at least one tree has been
passed. -/
def ofTrees (ts : List Tree) : Grammar := ofDepth (3 * Tree.sizes ts + 4)

end Grammar

def SourceFile.items? (text : String) : Option (List Item) := do
  let trees ← Tree.ofFile? text
  let g := Grammar.ofTrees trees
  let file : Reader (List Item) := do
    let _ ← g.innerAttributes
    g.items
  match file ⟨trees, []⟩ with
  | some (items, ⟨[], _⟩) => some items
  | _ => none

end Bindwright.Source
