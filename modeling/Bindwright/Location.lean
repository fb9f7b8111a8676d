namespace Bindwright.Text

structure Position where
  line : Nat
  column : Nat
  deriving DecidableEq, Repr

namespace Position

def start : Position := ⟨1, 0⟩

def advance (p : Position) (c : Char) : Position :=
  if c = '\n' then ⟨p.line + 1, 0⟩ else ⟨p.line, p.column + 1⟩

def after (p : Position) (cs : List Char) : Position := cs.foldl advance p

@[simp] theorem after_nil (p : Position) : p.after [] = p := rfl

@[simp] theorem after_cons (p : Position) (c : Char) (cs : List Char) :
    p.after (c :: cs) = (p.advance c).after cs := rfl

theorem after_append (p : Position) (cs ds : List Char) :
    p.after (cs ++ ds) = (p.after cs).after ds := List.foldl_append

end Position
end Bindwright.Text

namespace Bindwright

/-- A place in a source file, as far as it is known. Lines count from one, columns from zero. -/
structure Location where
  file : Option String
  line : Option Nat
  column : Option Nat
  deriving DecidableEq, Repr

namespace Location

def unknown : Location := ⟨none, none, none⟩

def suffix (l : Location) : String :=
  match l.line, l.column with
  | none, _ => ""
  | some line, none => ":" ++ Nat.repr line
  | some line, some column => ":" ++ Nat.repr line ++ ":" ++ Nat.repr column

def text (l : Location) : String := l.file.getD "<unknown>" ++ l.suffix

end Location
end Bindwright
