import Bindwright.Files.Path
import Bindwright.Table

namespace Bindwright

open Files

structure FileTree where
  files : Table (List String) String
  directories : List (List String)

namespace FileTree

def empty : FileTree := ⟨.empty, [[]]⟩

def isDirectory (t : FileTree) (names : List String) : Bool := t.directories.contains names

def walk (t : FileTree) : (place : List String) → List Component → Option (List String)
  | place, [] => some place
  | place, c :: cs =>
    if t.isDirectory place then
      match c with
      | .root => t.walk [] cs
      | .current => t.walk place cs
      | .parent => t.walk place.dropLast cs
      | .normal name => t.walk (place ++ [name]) cs
    else none

/-- The place that a path names; only a directory's path may end in a slash or a dot. -/
def place? (t : FileTree) (path : String) : Option (List String) := do
  let place ← t.walk [] (components path)
  if namesDirectory path ∧ !t.isDirectory place then none else some place

def read? (t : FileTree) (path : String) : Option String := do t.files.find? (← t.place? path)

def filesBelow (t : FileTree) (path : String) : List String :=
  match t.place? path with
  | none => []
  | some place =>
    let below := t.files.keys.filterMap fun file =>
      if place.isPrefixOf file then some ((file.drop place.length).foldl join path) else none
    below.mergeSort fun a b => comparePaths a b != .gt

def makeDirectories (t : FileTree) :
    (place : List String) → List Component → Option (FileTree × List String)
  | place, [] => some (t, place)
  | place, c :: cs =>
    match c with
    | .root => t.makeDirectories [] cs
    | .current => t.makeDirectories place cs
    | .parent => t.makeDirectories place.dropLast cs
    | .normal name =>
      let next := place ++ [name]
      if t.files.contains next then none
      else
        let t := if t.isDirectory next then t else { t with directories := next :: t.directories }
        t.makeDirectories next cs

/-- Writes a file in one step, directories before it. On failure no file has changed. -/
def write? (t : FileTree) (path text : String) : Option FileTree :=
  match fileName? path with
  | none => none
  | some name =>
    if namesDirectory path then none
    else
      match t.makeDirectories [] (components path).dropLast with
      | none => none
      | some (t, place) =>
        let file := place ++ [name]
        if t.isDirectory file then none else some { t with files := t.files.insert file text }

def changedSince (t before : FileTree) : List (List String × String) :=
  t.files.entries.filter fun (names, text) => before.files.find? names ≠ some text

end FileTree
end Bindwright
