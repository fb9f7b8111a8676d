import Bindwright.Text.Affix

namespace Bindwright.ItemPath

open Text

def splitFirst : List Char → List Char × Option (List Char)
  | [] => ([], none)
  | ':' :: ':' :: rest => ([], some rest)
  | c :: cs => (c :: (splitFirst cs).1, (splitFirst cs).2)

def splitLast? (path : String) : Option (String × String) :=
  match splitFirst path.toList.reverse with
  | (name, some parent) => some (String.ofList parent.reverse, String.ofList name.reverse)
  | (_, none) => none

def simpleName (path : String) : String :=
  match splitLast? path with
  | some (_, name) => name
  | none => path

def join (parent name : String) : String := parent ++ "::" ++ name

def segmentsFrom : (current : List Char) → List Char → List (List Char)
  | current, [] => [current.reverse]
  | current, ':' :: ':' :: rest => current.reverse :: segmentsFrom [] rest
  | current, c :: cs => segmentsFrom (c :: current) cs

def segments (path : String) : List String := (segmentsFrom [] path.toList).map String.ofList

end Bindwright.ItemPath
