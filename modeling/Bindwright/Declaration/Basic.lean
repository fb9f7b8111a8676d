import Bindwright.Location

namespace Bindwright

/-- What a declaration makes of its base type, read from outside in: `pointer (function value)` is
a pointer to a function that returns the base type. -/
inductive Declarator where
  | value
  | pointer (inner : Declarator)
  | array (inner : Declarator)
  | function (inner : Declarator)
  deriving DecidableEq, Repr

namespace Declarator

def fill (inner : Declarator) : Declarator → Declarator
  | value => inner
  | pointer d => pointer (fill inner d)
  | array d => array (fill inner d)
  | function d => function (fill inner d)

def addPointer (d : Declarator) : Declarator := fill (pointer value) d
def addArray (d : Declarator) : Declarator := fill (array value) d
def addFunction (d : Declarator) : Declarator := fill (function value) d

def addPointers (d : Declarator) : Nat → Declarator
  | 0 => d
  | n + 1 => addPointers d.addPointer n

theorem fill_fill (a b d : Declarator) : fill a (fill b d) = fill (fill a b) d := by
  induction d <;> simp_all [fill]

def toString : Declarator → String
  | value => "Value"
  | pointer d => "Pointer(" ++ toString d ++ ")"
  | array d => "Array(" ++ toString d ++ ")"
  | function d => "Function(" ++ toString d ++ ")"

end Declarator

structure Member where
  name : String
  typeName : String
  declarator : Declarator
  position : Text.Position
  deriving DecidableEq, Repr

inductive Declaration where
  -- A structure or union with its body.
  | record (name : String) (members : List Member)
  | typeName (name target : String)
  deriving DecidableEq, Repr

namespace Declaration

def members : Declaration → List Member
  | record _ ms => ms
  | typeName _ _ => []

inductive Lexeme where
  | word (text : String)
  | number (text : String)
  | mark (c : Char)
  deriving DecidableEq, Repr

def Lexeme.describe : Lexeme → String
  | word text | number text => "\x60" ++ text ++ "\x60"
  | mark c => "\x60" ++ String.singleton c ++ "\x60"

structure Token where
  lexeme : Lexeme
  position : Text.Position
  deriving DecidableEq, Repr

inductive FaultCause where
  | unterminatedComment
  | unexpectedEnd
  | expectedMark (c : Char) (found : Lexeme)
  | expectedDeclarator (found : Lexeme)
  | expectedType (found : Lexeme)
  | secondType
  | secondTypedef
  | secondTypedefName
  | noTypedefName
  | typedefInMember
  deriving DecidableEq, Repr

def FaultCause.message : FaultCause → String
  | unterminatedComment => "Unterminated comment"
  | unexpectedEnd => "Unexpected end of snippet"
  | expectedMark c found => "Expected " ++ (Lexeme.mark c).describe ++ ", found " ++ found.describe
  | expectedDeclarator found => "Expected a declarator, found " ++ found.describe
  | expectedType found => "Expected a type specifier, found " ++ found.describe
  | secondType => "Multiple type-names found"
  | secondTypedef => "Multiple typedef specifiers found"
  | secondTypedefName => "Multiple type-definition names found"
  | noTypedefName => "Missing type-definition name"
  | typedefInMember => "Unexpected typedef in a structure member"

structure Fault where
  cause : FaultCause
  position : Text.Position
  deriving DecidableEq, Repr

def Fault.text (f : Fault) : String :=
  f.cause.message ++ " (line " ++ Nat.repr f.position.line ++ ", column " ++
    Nat.repr f.position.column ++ ")"

end Declaration
end Bindwright
