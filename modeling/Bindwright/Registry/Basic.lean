import Bindwright.Binding.Basic
import Bindwright.Diagnostic
import Bindwright.Naming.Native
import Bindwright.Table

/-!
What each native name stands for: an existing type, a function pointer, one flag of a flag type, or
a type still to be generated. Every operation gives the registry after it and the failure, if any.
-/

namespace Bindwright

structure Destination where
  module : String
  name : String
  deriving DecidableEq, Repr

def Destination.path (d : Destination) : String := ItemPath.join d.module d.name

inductive Product where
  | wrapper
  | constants (group : Naming.ConstantGroup) (members : List HeaderConstant) (valueType : String)
  deriving DecidableEq, Repr

def Product.describe : Product → String
  | wrapper => "structure"
  | constants .flags .. => "bit-flag"
  | constants .values .. => "enum"

structure Request where
  native : String
  sourceModule : String
  destination : Destination
  product : Product
  location : Location
  deriving DecidableEq, Repr

inductive Mapping where
  | existing (native path : String)
  -- An existing type in the place of what the name stood for before.
  | replacement (native path : String) (replaced : Mapping)
  | functionPointer (native path : String)
  | pending (request : Request)
  | flagBits (native flags : String)
  deriving DecidableEq, Repr

namespace Mapping

def native : Mapping → String
  | existing native _ | replacement native _ _ | functionPointer native _ | flagBits native _ =>
    native
  | pending request => request.native

def existingPath? : Mapping → Option String
  | existing _ path | replacement _ path _ => some path
  | _ => none

def structurePath? : Mapping → Option String
  | existing _ path | replacement _ path _ => some path
  | pending ⟨_, _, destination, .wrapper, _⟩ => some destination.path
  | _ => none

def request? : Mapping → Option Request
  | pending request => some request
  | _ => none

def describe : Mapping → String
  | existing _ path => "existing type \x60" ++ path ++ "\x60"
  | replacement _ path _ => "replacement \x60" ++ path ++ "\x60"
  | functionPointer _ path => "function pointer \x60" ++ path ++ "\x60"
  | pending q => q.product.describe ++ " request for \x60" ++ q.destination.path ++ "\x60"
  | flagBits _ flags => "flag bits of \x60" ++ flags ++ "\x60"

end Mapping

structure Registry where
  mappings : Table String Mapping
  -- Destinations of pending requests, with the native name that claims each.
  claims : Table String String
  -- Paths of types that exist already.
  materialized : List String
  notes : List Diagnostic
  deriving Repr

namespace Registry

def withMaterialized (paths : List String) : Registry := ⟨.empty, .empty, paths, []⟩

def get? (r : Registry) (native : String) : Option Mapping := r.mappings.find? native

def requests (r : Registry) : List Request := r.mappings.values.filterMap Mapping.request?

def addDiagnostic (r : Registry) (d : Diagnostic) : Registry := { r with notes := r.notes ++ [d] }

def note (r : Registry) (message : String) : Registry :=
  r.addDiagnostic { Diagnostic.plain .note message with code := some "N0001" }

def put (r : Registry) (native : String) (m : Mapping) : Registry :=
  { r with mappings := r.mappings.insert native m }

def moveLast (r : Registry) (native : String) (m : Mapping) : Registry :=
  { r with mappings := (r.mappings.erase native).insert native m }

def release (r : Registry) (d : Destination) : Registry :=
  { r with claims := r.claims.erase d.path }

def alreadyMapped (native : String) (m : Mapping) : Failure :=
  .duplicateMapping native ("already mapped to " ++ m.describe)

/-- Maps a native name to an existing type. A pending request gives way to it: one for a structure
and a function pointer are kept as what was replaced. -/
def addMapping (r : Registry) (native path : String) : Registry × Option Failure :=
  let start := native ++ " is mapped to \x60" ++ path ++ "\x60; dropping its "
  match r.get? native with
  | none => (r.put native (.existing native path), none)
  | some old =>
    match old with
    | .pending q =>
      match q.product with
      | .wrapper =>
        (((r.release q.destination).note (start ++ "structure request")).moveLast native
          (.replacement native path old), none)
      | .constants .. =>
        (((r.release q.destination).note (start ++ old.describe)).moveLast native
          (.existing native path), none)
    | .functionPointer .. => (r.moveLast native (.replacement native path old), none)
    -- The entry is put back, but behind all others.
    | _ => (r.moveLast native old, some (alreadyMapped native old))

def addFunctionPointer (r : Registry) (native path : String) : Registry × Option Failure :=
  match r.get? native with
  | none => (r.put native (.functionPointer native path), none)
  | some (.existing _ existing) =>
    (r.put native (.replacement native existing (.functionPointer native path)), none)
  | some other => (r, some (alreadyMapped native other))

/-- Queues a request. A name that stands for an existing type keeps it, and a destination that
exists already is mapped to. -/
def addRequest (r : Registry) (q : Request) : Registry × Option Failure :=
  match r.get? q.native with
  | some old =>
    match old.existingPath? with
    | some path =>
      (r.note (q.native ++ " is already mapped to \x60" ++ path ++ "\x60; skipping its " ++
        q.product.describe ++ " request"), none)
    | none => (r, some (alreadyMapped q.native old))
  | none =>
    let path := q.destination.path
    -- What exists already is not generated once more.
    if r.materialized.contains path then
      (r.note (path ++ " already exists; mapping " ++ q.native ++ " to it instead of generating")
        ).addMapping q.native path
    else
      match r.claims.find? path with
      | some claimer =>
        (r, some (.duplicateMapping q.native
          ("destination \x60" ++ path ++ "\x60 is already generated from " ++ claimer)))
      | none =>
        ({ r with
            claims := r.claims.insert path q.native
            mappings := r.mappings.insert q.native (.pending q) }, none)

/-- Reads the type `native` as one flag of the flag type `flags`. -/
def addFlagBits (r : Registry) (native flags : String) : Registry × Option Failure :=
  match r.get? native with
  | none => (r.put native (.flagBits native flags), none)
  | some old =>
    if old.existingPath?.isSome then (r, none) else (r, some (alreadyMapped native old))

def takeNotes (r : Registry) : List Diagnostic × Registry := (r.notes, { r with notes := [] })

end Registry
end Bindwright
