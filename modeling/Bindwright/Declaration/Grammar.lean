import Bindwright.Declaration.Token

/-!
Reading tokens as declarations. Every reader takes tokens from the front of a list and hands back
the rest; `stop` is where a fault is reported if the tokens run out. Expressions, array bounds,
parameters and the bodies of enumerations are passed over as bracketed groups.
-/

namespace Bindwright.Declaration

open Text

def Token.isMark (c : Char) (t : Token) : Bool := t.lexeme = .mark c

def Token.word? (t : Token) : Option String :=
  match t.lexeme with
  | .word w => some w
  | _ => none

def storageClasses : List String :=
  ["extern", "static", "auto", "register", "inline", "_Thread_local"]

def qualifiers : List String := ["const", "volatile", "restrict", "_Atomic"]

def primitiveWords : List String :=
  ["void", "char", "short", "int", "long", "float", "double", "signed", "unsigned", "_Bool",
   "_Complex"]

abbrev Shorter (ts : List Token) := { rest : List Token // rest.length < ts.length }

abbrev NoLonger (ts : List Token) := { rest : List Token // rest.length ≤ ts.length }

def atEnd (stop : Position) {α : Type} : Except Fault α := .error ⟨.unexpectedEnd, stop⟩

def startsWithMark (c : Char) (ts : List Token) : Bool := ts.head?.any (·.isMark c)

def takeMark (stop : Position) (c : Char) :
    (ts : List Token) → Except Fault (Position × Shorter ts)
  | [] => atEnd stop
  | t :: rest =>
    if t.isMark c then .ok (t.position, ⟨rest, by simp⟩)
    else .error ⟨.expectedMark c t.lexeme, t.position⟩

def closeGroup (stop : Position) (openMark closeMark : Char) (depth : Nat) :
    (ts : List Token) → Except Fault (Shorter ts)
  | [] => atEnd stop
  | t :: ts =>
    let next (depth : Nat) : Except Fault (Shorter (t :: ts)) := do
      let ⟨rest, h⟩ ← closeGroup stop openMark closeMark depth ts
      return ⟨rest, by simp; omega⟩
    if t.isMark openMark then next (depth + 1)
    else if t.isMark closeMark then
      match depth with
      | 0 => .ok ⟨ts, by simp⟩
      | depth + 1 => next depth
    else next depth

def groupOpenedBy (t : Token) : Option (Char × Char) :=
  if t.isMark '(' then some ('(', ')')
  else if t.isMark '[' then some ('[', ']')
  else if t.isMark '\x7b' then some ('\x7b', '\x7d')
  else none

def passExpression (stop : Position) : (ts : List Token) → Except Fault (NoLonger ts)
  | [] => atEnd stop
  | t :: ts => do
    if t.isMark ',' || t.isMark ';' || t.isMark '\x7d' then return ⟨t :: ts, Nat.le_refl _⟩
    let ⟨inner, h⟩ : NoLonger ts ←
      match groupOpenedBy t with
      | some (o, c) => do
        let ⟨rest, h⟩ ← closeGroup stop o c 0 ts
        pure ⟨rest, Nat.le_of_lt h⟩
      | none => pure ⟨ts, Nat.le_refl _⟩
    let ⟨rest, h'⟩ ← passExpression stop inner
    return ⟨rest, by simp; omega⟩
termination_by ts => ts.length
decreasing_by simp; omega

def passExpressionAfter (stop : Position) (c : Char) :
    (ts : List Token) → Except Fault (NoLonger ts)
  | [] => .ok ⟨[], Nat.le_refl _⟩
  | t :: ts => do
    if t.isMark c then
      let ⟨rest, h⟩ ← passExpression stop ts
      return ⟨rest, by simp; omega⟩
    return ⟨t :: ts, Nat.le_refl _⟩

def takePointers : (afterStar : Bool) → List Token → Nat × List Token
  | _, [] => (0, [])
  | afterStar, t :: ts =>
    if t.isMark '*' then
      let (n, rest) := takePointers true ts
      (n + 1, rest)
    else if afterStar && t.word?.any qualifiers.contains then takePointers true ts
    else (0, t :: ts)

theorem takePointers_length (afterStar : Bool) (ts : List Token) :
    (takePointers afterStar ts).2.length ≤ ts.length := by
  fun_induction takePointers afterStar ts with
  | case1 => simp
  | case2 _ _ _ _ _ _ h ih => simp_all; omega
  | case3 _ _ _ _ _ ih => simp; omega
  | case4 => simp

def declaratorSuffixes (stop : Position) (d : Declarator) :
    (ts : List Token) → Except Fault (Declarator × NoLonger ts)
  | [] => .ok (d, ⟨[], Nat.le_refl _⟩)
  | t :: ts => do
    if t.isMark '[' then
      let ⟨rest, h⟩ ← closeGroup stop '[' ']' 0 ts
      let (d, ⟨rest, h'⟩) ← declaratorSuffixes stop d.addArray rest
      return (d, ⟨rest, by simp; omega⟩)
    if t.isMark '(' then
      let ⟨rest, h⟩ ← closeGroup stop '(' ')' 0 ts
      let (d, ⟨rest, h'⟩) ← declaratorSuffixes stop d.addFunction rest
      return (d, ⟨rest, by simp; omega⟩)
    return (d, ⟨t :: ts, Nat.le_refl _⟩)
termination_by ts => ts.length
decreasing_by all_goals simp; omega

mutual

def declarator (stop : Position) (ts : List Token) :
    Except Fault (String × Declarator × Shorter ts) := do
  let (name, d, ⟨rest, h⟩) ← directDeclarator stop (takePointers false ts).2
  return (name, d.addPointers (takePointers false ts).1,
    ⟨rest, by have := takePointers_length false ts; omega⟩)
termination_by 2 * ts.length + 1
decreasing_by have := takePointers_length false ts; omega

def directDeclarator (stop : Position) :
    (ts : List Token) → Except Fault (String × Declarator × Shorter ts)
  | [] => atEnd stop
  | t :: ts =>
    if t.isMark '(' then do
      let (name, d, ⟨rest, h⟩) ← declarator stop ts
      let (_, ⟨rest, h'⟩) ← takeMark stop ')' rest
      let (d, ⟨rest, h''⟩) ← declaratorSuffixes stop d rest
      return (name, d, ⟨rest, by simp; omega⟩)
    else
      match t.word? with
      | some name => do
        let (d, ⟨rest, h⟩) ← declaratorSuffixes stop .value ts
        return (name, d, ⟨rest, by simp; omega⟩)
      | none => .error ⟨.expectedDeclarator t.lexeme, t.position⟩
termination_by ts => 2 * ts.length
decreasing_by simp; omega

end

inductive TypeSpecifier where
  | primitive (words : String)
  | named (name : String)
  | record (tag : Option String) (members : Option (List Member))
  | enumeration (tag : Option String)

structure Specifiers where
  isTypedef : Bool
  type? : Option TypeSpecifier

namespace Specifiers

def none : Specifiers := ⟨false, Option.none⟩

def addType (s : Specifiers) (type : TypeSpecifier) (p : Position) : Except Fault Specifiers :=
  match s.type?, type with
  | Option.none, type => .ok { s with type? := some type }
  | some (.primitive words), .primitive word =>
    .ok { s with type? := some (.primitive (words ++ " " ++ word)) }
  | _, _ => .error ⟨.secondType, p⟩

def typeName (s : Specifiers) : String :=
  match s.type? with
  | some (.primitive name) | some (.named name) => name
  | some (.record tag _) | some (.enumeration tag) => tag.getD ""
  | Option.none => ""

end Specifiers

def takeTag : (ts : List Token) → Option String × NoLonger ts
  | [] => (none, ⟨[], Nat.le_refl _⟩)
  | t :: ts =>
    match t.word? with
    | some tag => (some tag, ⟨ts, by simp⟩)
    | none => (none, ⟨t :: ts, Nat.le_refl _⟩)

def enumSpecifier (stop : Position) (ts : List Token) :
    Except Fault (Option String × NoLonger ts) :=
  let (tag, ⟨rest, h⟩) := takeTag ts
  match rest, h with
  | [], h => .ok (tag, ⟨[], h⟩)
  | t :: rest, h => do
    if t.isMark '\x7b' then
      let ⟨rest, h'⟩ ← closeGroup stop '\x7b' '\x7d' 0 rest
      return (tag, ⟨rest, by simp at h; omega⟩)
    return (tag, ⟨t :: rest, h⟩)

def memberDeclarators (stop : Position) (typeName : String) :
    (ts : List Token) → Except Fault (List Member × Shorter ts)
  | [] => atEnd stop
  | t :: ts => do
    let (declared, ⟨rest, h⟩) : List Member × Shorter (t :: ts) ←
      if t.isMark ':' then do
        let ⟨rest, h⟩ ← passExpression stop ts
        pure ([], ⟨rest, by simp; omega⟩)
      else do
        let (name, d, ⟨rest, h⟩) ← declarator stop (t :: ts)
        let ⟨rest, h'⟩ ← passExpressionAfter stop ':' rest
        pure ([⟨name, typeName, d, t.position⟩], ⟨rest, by omega⟩)
    match rest, h with
    | [], h => return (declared, ⟨[], h⟩)
    | comma :: more, h =>
      if comma.isMark ',' then
        let (others, ⟨rest, h'⟩) ← memberDeclarators stop typeName more
        return (declared ++ others, ⟨rest, by simp at h ⊢; omega⟩)
      return (declared, ⟨comma :: more, h⟩)
termination_by ts => ts.length
decreasing_by simp at h ⊢; omega

mutual

/-- Specifiers in front of a declaration, added to those in `said`. A word that is no keyword
names the type if there is none yet, and else begins a declarator. -/
def takeSpecifiers (stop : Position) (topLevel : Bool) (said : Specifiers) :
    (ts : List Token) → Except Fault (Specifiers × NoLonger ts)
  | [] => .ok (said, ⟨[], Nat.le_refl _⟩)
  | t :: ts =>
    match t.word? with
    | none => .ok (said, ⟨t :: ts, Nat.le_refl _⟩)
    | some word =>
      let next (said : Specifiers) (inner : NoLonger ts) :
          Except Fault (Specifiers × NoLonger (t :: ts)) := do
        let (said, ⟨rest, h⟩) ← takeSpecifiers stop topLevel said inner.1
        return (said, ⟨rest, by have := inner.2; simp; omega⟩)
      if word = "typedef" then
        if !topLevel then .error ⟨.typedefInMember, t.position⟩
        else if said.isTypedef then .error ⟨.secondTypedef, t.position⟩
        else next { said with isTypedef := true } ⟨ts, Nat.le_refl _⟩
      else if storageClasses.contains word || qualifiers.contains word then
        next said ⟨ts, Nat.le_refl _⟩
      else if primitiveWords.contains word then do
        next (← said.addType (.primitive word) t.position) ⟨ts, Nat.le_refl _⟩
      else if word = "struct" || word = "union" then do
        let (type, inner) ← recordSpecifier stop ts
        next (← said.addType type t.position) inner
      else if word = "enum" then do
        let (tag, inner) ← enumSpecifier stop ts
        next (← said.addType (.enumeration tag) t.position) inner
      else if said.type?.isNone then do
        next (← said.addType (.named word) t.position) ⟨ts, Nat.le_refl _⟩
      else .ok (said, ⟨t :: ts, Nat.le_refl _⟩)
termination_by ts => 4 * ts.length
decreasing_by
  · have := inner.2; simp; omega
  · simp; omega

def specifiers (stop : Position) (topLevel : Bool) :
    (ts : List Token) → Except Fault (Specifiers × NoLonger ts)
  | [] => atEnd stop
  | t :: ts => do
    let (said, rest) ← takeSpecifiers stop topLevel .none (t :: ts)
    if said.type?.isNone then .error ⟨.expectedType t.lexeme, t.position⟩
    return (said, rest)
termination_by ts => 4 * ts.length + 1

def recordSpecifier (stop : Position) (ts : List Token) : Except Fault (TypeSpecifier × NoLonger ts) :=
  let (tag, ⟨rest, h⟩) := takeTag ts
  match rest, h with
  | [], h => .ok (.record tag none, ⟨[], h⟩)
  | t :: rest, h => do
    if t.isMark '\x7b' then
      let (members, ⟨rest, h'⟩) ← recordBody stop rest
      return (.record tag (some members), ⟨rest, by simp at h; omega⟩)
    return (.record tag none, ⟨t :: rest, h⟩)
termination_by 4 * ts.length + 3
decreasing_by simp at h; omega

def recordBody (stop : Position) : (ts : List Token) → Except Fault (List Member × Shorter ts)
  | [] => atEnd stop
  | t :: ts => do
    if t.isMark '\x7d' then return ([], ⟨ts, by simp⟩)
    let (said, ⟨rest, h⟩) ← specifiers stop false (t :: ts)
    let (declared, ⟨rest, h'⟩) : List Member × NoLonger rest ←
      if startsWithMark ';' rest then pure ([], ⟨rest, Nat.le_refl _⟩)
      else do
        let (declared, ⟨rest, h'⟩) ← memberDeclarators stop said.typeName rest
        pure (declared, ⟨rest, Nat.le_of_lt h'⟩)
    let (_, ⟨rest, h''⟩) ← takeMark stop ';' rest
    let (others, ⟨rest, h'''⟩) ← recordBody stop rest
    return (declared ++ others, ⟨rest, by simp at h ⊢; omega⟩)
termination_by ts => 4 * ts.length + 2
decreasing_by
  · omega
  · simp at h ⊢; omega

end

/-- The declarators of a declaration, with a name in `name?` if one was declared before; only a
type definition keeps the name. -/
def declarators (stop : Position) (isTypedef : Bool) (name? : Option String) :
    (ts : List Token) → Except Fault (Option String × Shorter ts)
  | [] => atEnd stop
  | t :: ts => do
    let (name, _, ⟨rest, h⟩) ← declarator stop (t :: ts)
    if isTypedef && name?.isSome then throw ⟨.secondTypedefName, t.position⟩
    let name? := if isTypedef then some name else name?
    let ⟨rest, h'⟩ ← passExpressionAfter stop '=' rest
    match rest, h' with
    | [], _ => return (name?, ⟨[], by simp⟩)
    | comma :: more, h' =>
      if comma.isMark ',' then
        let (name?, ⟨rest, h''⟩) ← declarators stop isTypedef name? more
        return (name?, ⟨rest, by simp at h h' ⊢; omega⟩)
      return (name?, ⟨comma :: more, by omega⟩)
termination_by ts => ts.length
decreasing_by simp at h h' ⊢; omega

def declared (said : Specifiers) (name? : Option String) (p : Position) :
    Except Fault (List Declaration) :=
  let body := match said.type? with
    | some (.record tag (some members)) => some (tag, members)
    | _ => none
  if said.isTypedef then
    match name? with
    | none => .error ⟨.noTypedefName, p⟩
    | some name =>
      let target := if said.typeName.isEmpty then name else said.typeName
      .ok <| (body.map fun (tag, members) => record (tag.getD name) members).toList ++
        [typeName name target]
  else
    .ok <| match body with
      | some (some tag, members) => [record tag members]
      | _ => []

def declaration (stop : Position) (ts : List Token) :
    Except Fault (List Declaration × Shorter ts) := do
  let (said, ⟨rest, h⟩) ← specifiers stop true ts
  let (name?, ⟨rest, h'⟩) : Option String × NoLonger rest ←
    if startsWithMark ';' rest then pure (none, ⟨rest, Nat.le_refl _⟩)
    else do
      let (name?, ⟨rest, h'⟩) ← declarators stop said.isTypedef none rest
      pure (name?, ⟨rest, Nat.le_of_lt h'⟩)
  let (p, ⟨rest, h''⟩) ← takeMark stop ';' rest
  return (← declared said name? p, ⟨rest, by omega⟩)

def declarations (stop : Position) : List Token → Except Fault (List Declaration)
  | [] => .ok []
  | t :: ts => do
    if t.isMark ';' then declarations stop ts
    else
      let (first, rest) ← declaration stop (t :: ts)
      return first ++ (← declarations stop rest.1)
termination_by ts => ts.length
decreasing_by
  · simp
  · exact rest.2

def lastPosition (ts : List Token) : Position := (ts.getLast?.map Token.position).getD ⟨0, 0⟩

def ofTokens (ts : List Token) : Except Fault (List Declaration) :=
  declarations (lastPosition ts) ts

end Bindwright.Declaration
