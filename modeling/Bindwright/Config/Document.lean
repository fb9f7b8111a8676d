import Bindwright.Table

namespace Bindwright.Config

/-- How a table came about: by its own header, by the header of a table below it, by a dotted key,
or in a value. -/
inductive Origin where
  | header
  | implied
  | dotted
  | value
  deriving DecidableEq, Repr

inductive Node where
  | text (value : String)
  | list (elements : List Node)
  | table (origin : Origin) (entries : Table String Node)
  | tables (elements : List (Table String Node))

abbrev Entries := Table String Node

inductive Line where
  | assign (key : List String) (value : Node)
  | header (path : List String)
  | element (path : List String)

/-- Changes the table at `path` by `f`. Tables on the way are made where they are missing. A table
with a header of its own cannot be reached by a dotted key, and one in a value not at all; of
several tables the last is meant. -/
def update (byKey : Bool) (f : Origin → Entries → Option Entries) :
    (path : List String) → Origin → Entries → Option Entries
  | [], origin, entries => f origin entries
  | key :: path, _, entries =>
    match entries.find? key with
    | none => do
      let origin := if byKey then .dotted else .implied
      return entries.insert key (.table origin (← update byKey f path origin .empty))
    | some (.table .value _) => none
    | some (.table origin inner) =>
      if byKey ∧ origin = .header then none
      else do return entries.insert key (.table origin (← update byKey f path origin inner))
    | some (.tables elements) =>
      match elements.getLast? with
      | some last => do
        let last ← update byKey f path .header last
        return entries.insert key (.tables (elements.dropLast ++ [last]))
      | none => none
    | some _ => none

def insertNew (key : String) (value : Node) (entries : Entries) : Option Entries :=
  if entries.contains key then none else some (entries.insert key value)

def assign (key : List String) (value : Node) (origin : Origin) (entries : Entries) :
    Option Entries :=
  match key.getLast? with
  | none => none
  | some name =>
    let path := key.dropLast
    update true (fun origin inner =>
      if path.isEmpty ∨ origin = .dotted then insertNew name value inner else none)
      path origin entries

def defineTable (path : List String) (entries : Entries) : Option Entries :=
  match path.getLast? with
  | none => none
  | some name =>
    update false (fun _ inner =>
      match inner.find? name with
      | none => some (inner.insert name (.table .header .empty))
      | some (.table .implied below) => some (inner.insert name (.table .header below))
      | some _ => none) path.dropLast .header entries

def addElement (path : List String) (entries : Entries) : Option Entries :=
  match path.getLast? with
  | none => none
  | some name =>
    update false (fun _ inner =>
      match inner.find? name with
      | none => some (inner.insert name (.tables [.empty]))
      | some (.tables elements) => some (inner.insert name (.tables (elements ++ [.empty])))
      | some _ => none) path.dropLast .header entries

def ofPairs (pairs : List (List String × Node)) : Option Entries :=
  pairs.foldlM (fun entries (key, value) => assign key value .header entries) .empty

def ofLines : (current : List String) → Entries → List Line → Option Entries
  | _, entries, [] => some entries
  | current, entries, .assign key value :: lines => do
    ofLines current (← update false (assign key value) current .header entries) lines
  | _, entries, .header path :: lines => do ofLines path (← defineTable path entries) lines
  | _, entries, .element path :: lines => do ofLines path (← addElement path entries) lines

end Bindwright.Config
