import Bindwright.Source.Item

/-!
Readers for paths, types, bounds, generic parameters and attributes.

Types hold expressions and expressions hold types, so each reader takes the readers of what is
nested in it from a `Grammar`, which serves for one depth less.
-/

namespace Bindwright.Source

/-- The readers that need each other. Where sums are allowed a type may be a sum of bounds; where
records are not allowed, a brace after a path ends the expression. An expression gives the integer
that it spells out. -/
structure Grammar where
  type : (sums : Bool) → Reader TypeForm
  arguments : Reader (List TypeForm)
  operand : (records : Bool) → Reader (Option Int)
  expression : (records : Bool) → Reader (Option Int)
  -- All statements of a block; the integer that the last one spells out.
  statements : Reader (Option Int)
  pattern : Reader Unit
  item : Reader Item

namespace Grammar

open Reader

variable (g : Grammar)

def items : Reader (List Item) := many List.isEmpty g.item

/-- Reads what stands between angle brackets, up to the closing one. Lifetimes, for which `r` gives
true, are written first. -/
def lifetimesFirst {α : Type} (r : Reader (Bool × α)) : Reader (List α) := do
  let element : Reader (Bool × Bool × α) := do
    let (isLifetime, a) ← r
    if ← seesMarks ">" then return (isLifetime, false, a)
    marks ","
    return (isLifetime, true, a)
  let parts ← many (startsMarks ">") (captured element)
  let (lifetimes, others) := parts.partition (·.1.1)
  writeAll (lifetimes.flatMap (·.2))
  if !others.isEmpty ∧ lifetimes.getLast?.any fun p => !p.1.2.1 then write ","
  writeAll (others.flatMap (·.2))
  return parts.map (·.1.2.2)

def constantArgument : Reader Unit := do
  if ← sees (startsGroup .brace) then let _ ← content .brace
  else if ← sees (startsAnyWord ["true", "false"]) then let _ ← anyWord
  else if ← sees startsIdentifier then let _ ← identifier
  else
    let _ ← skipMarks "-"
    let _ ← literal

def boundsAfterColon (stop : List Tree → Bool) (r : Reader Unit) : Reader Unit := do
  if ← seesMarks ":" then
    let (_, tokens) ← captured do
      marks ":"
      separated stop "+" r
    if 1 < tokens.length then writeAll tokens

def result (sums : Bool) : Reader (Option TypeForm) := do
  if ← skipMarks "->" then some <$> g.type sums else return none

def ellipsis : Reader Unit := do
  marks "..."
  if !(← atEnd) then
    if !(← sees fun ts => startsMarks "," ts && (ts.drop 1).isEmpty) then failure

def modulePath : Reader (Bool × List String) := do
  let absolute ← skipMarks "::"
  let name : Reader String := do
    if ← sees (startsAnyWord ["super", "self", "Self", "crate"]) then return (← anyWord).text
    return (← identifier).text
  let first ← name
  let others ← many (!startsMarks "::" ·) do
    marks "::"
    name
  return (absolute, first :: others)

def oneAttribute (inner : Bool) : Reader Attribute := do
  let position := ((← get).rest.head?.map Tree.position).getD .start
  marks "#"
  if inner then marks "!"
  inside .bracket do
    let (absolute, path) ←
      if ← skipWord "unsafe" then pure (false, ["unsafe"]) else modulePath
    if ← sees fun ts => Delimiter.all.any (startsGroup · ts) then
      let (_, trees) ← anyContent
      return ⟨absolute, path, .list trees, position⟩
    if ← sees fun ts => startsMarks "=" ts && !startsMarks "==" ts then
      marks "="
      let value := (← get).rest
      let _ ← g.expression true
      return ⟨absolute, path, .value value, position⟩
    return ⟨absolute, path, .none, position⟩

def attributes : Reader (List Attribute) := many (!startsMarks "#" ·) (g.oneAttribute false)

def innerAttributes : Reader (List Attribute) :=
  many (fun ts => !(startsMarks "#" ts && startsMarks "!" (ts.drop 1))) (g.oneAttribute true)

def lifetimeParameter (stop : List Tree → Bool) : Reader Unit := do
  lifetime
  boundsAfterColon stop lifetime

def endsArgument (ts : List Tree) : Bool := startsMarks "," ts || startsMarks ">" ts

def binder : Reader Bool := do
  if !(← skipWord "for") then return false
  marks "<"
  let _ ← separated (startsMarks ">") "," do
    let _ ← g.attributes
    lifetimeParameter endsArgument
  marks ">"
  return true

def takesArguments (inExpression : Bool) (ts : List Tree) : Bool :=
  (!inExpression && startsMarks "<" ts && !startsMarks "<=" ts) ||
    (startsMarks "::" ts && startsMarks "<" (ts.drop 2))

def startsCall (ts : List Tree) : Bool :=
  startsGroup .parenthesis ts || (startsMarks "::" ts && startsGroup .parenthesis (ts.drop 2))

def segment (inExpression : Bool) : Reader Segment := do
  if ← sees (startsAnyWord ["super", "self", "crate", "try"]) then return .plain (← anyWord).text
  let name ← if ← seesWord "Self" then anyWord else identifier
  if ← sees (takesArguments inExpression) then return .applied name.text (← g.arguments)
  return .plain name.text

def furtherSegments (inExpression : Bool) : Reader (List Segment) :=
  many (fun ts => !startsMarks "::" ts || startsGroup .parenthesis (ts.drop 2)) do
    marks "::"
    g.segment inExpression

def path (inExpression : Bool) : Reader (Bool × List Segment) := do
  let absolute ← skipMarks "::"
  let first ← g.segment inExpression
  return (absolute, first :: (← g.furtherSegments inExpression))

def callablePath : Reader (Bool × List Segment) := do
  let (absolute, segments) ← g.path false
  match segments.getLast?, ← sees startsCall with
  | some (.plain name), true =>
    let _ ← captured (skipMarks "::")
    let _ ← inside .parenthesis (commas (g.type true))
    let more ← match ← g.result false with
      | some (.parenthesized _) => g.furtherSegments false
      | _ => pure []
    return (absolute, segments.dropLast ++ .callable name :: more)
  | _, _ => return (absolute, segments)

def traitBound : Reader Unit := do
  let bound ← g.binder
  if ← skipMarks "~" then word "const"
  if ← skipMarks "?" then
    if !bound then let _ ← g.binder
  let _ ← g.callablePath

def bound : Reader Unit := do
  if ← sees startsLifetime then lifetime
  else if ← skipWord "use" then
    marks "<"
    let _ ← separated (startsMarks ">") "," (lifetime <|> do let _ ← anyWord)
    marks ">"
  else if ← sees (startsGroup .parenthesis) then inside .parenthesis g.traitBound
  else g.traitBound

def startsBound (ts : List Tree) : Bool :=
  startsLifetime ts || startsMarks "::" ts || startsMarks "?" ts || startsMarks "~" ts ||
    startsGroup .parenthesis ts || (match ts with | .word .. :: _ => true | _ => false)

def sum (sums : Bool) : Reader Bool := do
  let isTrait (ts : List Tree) := startsBound ts && !startsLifetime ts && !startsAnyWord ["use"] ts
  let first ← sees isTrait
  g.bound
  let others ← many (fun ts => !(sums && startsMarks "+" ts)) do
    marks "+"
    let other ← sees isTrait
    whenSees startsBound g.bound
    return other
  return first || others.any id

def traitSum (sums : Bool) : Reader Unit := do
  if !(← g.sum sums) then failure

def argument : Reader (Bool × Option TypeForm) := do
  let isConstant (ts : List Tree) := startsLiteral ts || startsGroup .brace ts
  if ← sees fun ts => startsLifetime ts && !startsMarks "+" (ts.drop 1) then
    lifetime
    return (true, none)
  if ← sees isConstant then
    constantArgument
    return (false, none)
  let type ← g.type true
  match type with
  | .path false [.plain _] | .path false [.applied ..] =>
    if ← skipMarks "=" then
      if ← sees isConstant then constantArgument else let _ ← g.type true
      return (false, none)
    if ← skipMarks ":" then
      let _ ← separated endsArgument "+" g.bound
      return (false, none)
    return (false, some type)
  | _ => return (false, some type)

def argumentsReader : Reader (List TypeForm) := do
  let _ ← skipMarks "::"
  marks "<"
  let types ← lifetimesFirst g.argument
  marks ">"
  return types.filterMap id

def genericParameter : Reader (Bool × Unit) := do
  let _ ← g.attributes
  if ← sees startsLifetime then
    lifetimeParameter endsArgument
    return (true, ())
  if ← skipWord "const" then
    let _ ← identifier
    marks ":"
    let _ ← g.type true
    if ← skipMarks "=" then constantArgument
  else
    let _ ← if ← seesWord "_" then anyWord else identifier
    boundsAfterColon (fun ts => endsArgument ts || startsMarks "=" ts) g.bound
    if ← skipMarks "=" then let _ ← g.type true
  return (false, ())

def generics : Reader Bool := do
  if !(← seesMarks "<") then return false
  let (_, tokens) ← captured do
    marks "<"
    let _ ← lifetimesFirst g.genericParameter
    marks ">"
  if 2 < tokens.length then writeAll tokens
  return true

def endsBounds (ts : List Tree) : Bool :=
  ts.isEmpty || startsGroup .brace ts || startsMarks ";" ts || startsMarks "=" ts ||
    (startsMarks ":" ts && !startsMarks "::" ts)

def wherePredicate : Reader Unit := do
  let stop (ts : List Tree) := endsBounds ts || startsMarks "," ts
  if ← sees fun ts => startsLifetime ts && startsMarks ":" (ts.drop 1) then
    lifetime
    marks ":"
    let _ ← separated stop "+" lifetime
  else
    let _ ← g.binder
    let _ ← g.type true
    marks ":"
    let _ ← separated stop "+" g.bound

def whereClause : Reader Bool := do
  if !(← seesWord "where") then return false
  let (_, tokens) ← captured do
    word "where"
    separated endsBounds "," g.wherePredicate
  if 1 < tokens.length then writeAll tokens
  return true

def interface : Reader Unit := do
  if ← skipWord "extern" then
    whenSees (fun ts => match ts with | .literal (.text _) .. :: _ => true | _ => false) do
      let _ ← literal

def functionParameter : Reader Unit := do
  let _ ← g.attributes
  if ← seesMarks "..." then ellipsis
  else
    let isNamed (ts : List Tree) : Bool :=
      (startsIdentifier ts || startsAnyWord ["_", "self"] ts) &&
        startsMarks ":" (ts.drop 1) && !startsMarks "::" (ts.drop 1)
    if ← sees isNamed then
      let _ ← anyWord
      marks ":"
    if ← seesMarks "..." then ellipsis else let _ ← g.type true

def functionType : Reader Unit := do
  let _ ← skipWord "unsafe"
  interface
  word "fn"
  let _ ← inside .parenthesis (commas g.functionParameter)
  let _ ← g.result false

def parenthesizedType (sums : Bool) : Reader (String → TypeForm) := do
  let alone ← inside .parenthesis do
    if ← atEnd then return some .unit
    if ← sees fun ts => startsLifetime ts || startsMarks "?" ts then
      g.traitSum true
      return none
    let first ← g.type true
    if ← skipMarks "," then
      let _ ← commas (g.type true)
      return none
    return some (.parenthesized first)
  let canAdd : Bool := match alone with
    | some (.parenthesized (.path ..)) | some (.parenthesized (.other _)) | none => true
    | _ => false
  if canAdd ∧ sums then
    if ← skipMarks "+" then
      let _ ← g.sum true
      return .other
  match alone with
  | some type => return fun _ => type
  | none => return .other

def pathType (bound sums : Bool) : Reader (String → TypeForm) := do
  let (absolute, segments) ← g.callablePath
  let isPlain := segments.all fun | .plain _ => true | _ => false
  if ← sees fun ts => isPlain && startsMarks "!" ts && !startsMarks "!=" ts then
    marks "!"
    let _ ← anyContent
    return .other
  if sums then
    if ← skipMarks "+" then
      whenSees startsBound do let _ ← g.sum true
      return .other
  return if bound then .other else fun _ => .path absolute segments

def qualifiedPath (inExpression : Bool) : Reader Segment := do
  marks "<"
  let _ ← g.type true
  if ← skipWord "as" then let _ ← g.callablePath
  marks ">"
  let more ← many (!startsMarks "::" ·) do
    marks "::"
    g.segment inExpression
  match more.getLast? with
  | some last => return last
  | none => failure

def typeForm (sums : Bool) : Reader (String → TypeForm) := do
  let bound ← g.binder
  if bound then
    if !(← sees fun ts => startsIdentifier ts ||
        startsAnyWord ["fn", "unsafe", "extern", "super", "self", "Self", "crate"] ts) then failure
  if ← sees (startsAnyWord ["fn", "unsafe", "extern"]) then
    g.functionType
    return .function
  if ← sees (startsGroup .parenthesis) then return ← g.parenthesizedType sums
  if ← sees (startsGroup .bracket) then
    inside .bracket do
      let _ ← g.type true
      if ← skipMarks ";" then let _ ← g.expression true
    return .other
  if ← seesMarks "<" then
    let last ← g.qualifiedPath false
    return .qualified last
  if ← sees fun ts => startsIdentifier ts || startsMarks "::" ts ||
      startsAnyWord ["super", "self", "Self", "crate"] ts then
    return ← g.pathType bound sums
  if ← skipWord "dyn" then
    let _ ← skipMarks "*"
    g.traitSum sums
    return .other
  if ← skipWord "impl" then
    g.traitSum sums
    return .other
  if ← skipMarks "*" then
    let mutable ← skipWord "mut"
    if !mutable then word "const"
    let target ← g.type false
    return fun _ => .pointer mutable target
  if ← skipMarks "&" then
    whenSees startsLifetime lifetime
    let mutable ← skipWord "mut"
    let target ← g.type false
    return fun _ => .reference mutable target
  if ← sees startsLifetime then
    g.traitSum true
    return .other
  if ← seesMarks "!=" then failure
  if ← skipMarks "!" then return .other
  word "_"
  return .other

def typeReader (sums : Bool) : Reader TypeForm := do
  let (form, tokens) ← captured (g.typeForm sums)
  writeAll tokens
  return form (" ".intercalate tokens)

end Grammar
end Bindwright.Source
