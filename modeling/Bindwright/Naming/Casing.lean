import Bindwright.Text.Case
import Bindwright.Text.Affix

namespace Bindwright.Naming

open Text

/-- Whether a word starts at `c`: after a lower-case letter, or at the last capital of a run of
capitals and digits that a lower-case letter follows. -/
def startsWord (previous c : Char) (next : Option Char) : Bool :=
  isUppercase c &&
    (isLowercase previous ||
      ((isUppercase previous || previous.isDigit) && next.any isLowercase))

def snakeAfter (previous : Char) : List Char → List Char
  | [] => []
  | c :: rest =>
    if startsWord previous c rest.head? then '_' :: lowerOf c ++ snakeAfter c rest
    else lowerOf c ++ snakeAfter c rest

def snakeChars : List Char → List Char
  | [] => []
  | c :: rest => lowerOf c ++ snakeAfter c rest

def snakeCase (name : String) : String := String.ofList (snakeChars name.toList)

def screamingSnakeCase (name : String) : String :=
  String.ofList (uppercase (snakeChars name.toList))

def capitalize : List Char → List Char
  | [] => []
  | c :: rest => upperOf c ++ lowercase rest

def upperCamelCase (screaming : String) : String :=
  String.ofList ((splitAll '_' screaming.toList).flatMap capitalize)

def keywords : List String :=
  ["abstract", "as", "async", "await", "become", "box", "break", "const", "continue", "do", "dyn",
   "else", "enum", "extern", "false", "final", "fn", "for", "gen", "if", "impl", "in", "let",
   "loop", "macro", "match", "mod", "move", "mut", "override", "priv", "pub", "ref", "return",
   "static", "struct", "trait", "true", "try", "type", "typeof", "unsafe", "unsized", "use",
   "virtual", "where", "while", "yield"]

def pathKeywords : List String := ["crate", "self", "Self", "super"]

def escape (name : String) : String :=
  if pathKeywords.contains name then name ++ "_"
  else if keywords.contains name then "r#" ++ name
  else name

def fieldName (member : String) : String := escape (snakeCase member)

end Bindwright.Naming
