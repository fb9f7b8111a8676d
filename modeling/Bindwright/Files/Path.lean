import Bindwright.Text.Affix

namespace Bindwright.Files

open Text

def join (base rest : String) : String :=
  if startsWith ['/'] rest.toList || base.isEmpty then rest
  else if endsWith ['/'] base.toList then base ++ rest
  else base ++ "/" ++ rest

inductive Component where
  | root
  | current
  | parent
  | normal (name : String)
  deriving DecidableEq, Repr

namespace Component

def rank : Component → Nat
  | root => 0
  | current => 1
  | parent => 2
  | normal _ => 3

def compare (a b : Component) : Ordering :=
  match a, b with
  | normal a, normal b => Ord.compare a b
  | a, b => Ord.compare a.rank b.rank

def text : Component → String
  | root => "/"
  | current => "."
  | parent => ".."
  | normal name => name

end Component

def ofPiece (piece : List Char) : List Component :=
  if piece = [] ∨ piece = ['.'] then []
  else if piece = ['.', '.'] then [.parent]
  else [.normal (String.ofList piece)]

/-- The components of a path. Doubled slashes, slashes at the end and dots count only where a
relative path begins with a dot. -/
def components (path : String) : List Component :=
  match splitAll '/' path.toList with
  | [] => []
  | first :: rest =>
    (if first = [] then (if path.isEmpty then [] else [.root])
      else if first = ['.'] then [.current] else ofPiece first) ++ rest.flatMap ofPiece

def compareComponents : List Component → List Component → Ordering
  | [], [] => .eq
  | [], _ :: _ => .lt
  | _ :: _, [] => .gt
  | a :: as, b :: bs => (a.compare b).then (compareComponents as bs)

def comparePaths (a b : String) : Ordering := compareComponents (components a) (components b)

def namesDirectory (path : String) : Bool :=
  match (splitAll '/' path.toList).getLast? with
  | some piece => piece = [] || piece = ['.'] || piece = ['.', '.']
  | none => true

def parent? (path : String) : Option String :=
  let trim (pieces : List (List Char)) : List (List Char) :=
    (pieces.reverse.dropWhile fun p => p = [] || p = ['.']).reverse
  match (components path).getLast? with
  | none | some .root => none
  | some _ =>
    let front := trim (trim (splitAll '/' path.toList)).dropLast
    let text := String.ofList (['/'].intercalate front)
    some (if startsWith ['/'] path.toList ∧ text.isEmpty then "/" else text)

def fileName? (path : String) : Option String :=
  match (components path).getLast? with
  | some (.normal name) => some name
  | _ => none

def splitExtension (name : String) : String × Option String :=
  match splitLast? '.' name.toList with
  | none | some ([], _) => (name, none)
  | some (stem, extension) => (String.ofList stem, some (String.ofList extension))

def fileStem? (path : String) : Option String := (fileName? path).map (splitExtension · |>.1)

def extension? (path : String) : Option String := (fileName? path).bind (splitExtension · |>.2)

end Bindwright.Files
