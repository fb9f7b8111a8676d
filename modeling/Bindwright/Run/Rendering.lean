import Bindwright.Declaration.Snippet
import Bindwright.Emit.ConstantsFile
import Bindwright.Emit.StructureFile

namespace Bindwright

structure Rendered where
  text : String
  exports : List String
  deriving DecidableEq, Repr

namespace NativeType

def bodyOf? (name : String) (ds : List Declaration) : Option (List Member) :=
  ds.findSome? fun
    | .record tag members => if tag = name then some members else none
    | .typeName .. => none

/-- The body of a type, directly or through one definition of its name. -/
def declaredBody? (name : String) (ds : List Declaration) : Option (List Member) :=
  (bodyOf? name ds).or <| ds.findSome? fun
    | .typeName defined target => if defined = name then bodyOf? target ds else none
    | .record .. => none

def declaredMembers (t : NativeType) : Except Failure (List Member) :=
  match Declaration.ofDocumentation t.documentation with
  | .error fault =>
    .error (.malformedDeclaration t.name fault.cause.message
      (t.documentationLocation fault.position))
  | .ok ds =>
    match declaredBody? t.name ds with
    | some members => .ok members
    | none => .error (.noDeclaration t.name t.location)

end NativeType

namespace Rendering

def nativeType (b : Bindings) (q : Request) : Except Failure NativeType :=
  match (b.typesIn q.sourceModule).find? (·.name = q.native) with
  | some t => .ok t
  | none => .error (.noDeclaration q.native q.location)

def classifiedMembers (b : Bindings) (r : Registry) (t : NativeType) :
    Except Failure (List ClassifiedMember) := do
  let members ← t.declaredMembers
  let bound ← t.bindings b.separator
  t.matchMembers members bound
  t.classify bound r b members

def structureFile (b : Bindings) (r : Registry) (date : String) (q : Request) :
    Except Failure StructureFile := do
  let t ← nativeType b q
  return ⟨t, q.destination.name, ← classifiedMembers b r t, b.separator, date⟩

def render (b : Bindings) (r : Registry) (date : String) (q : Request) :
    Except Failure Rendered :=
  match ConstantsFile.ofRequest? q date with
  | some f => .ok ⟨f.text, f.exports⟩
  | none => do
    let f ← structureFile b r date q
    return ⟨f.text, f.exports⟩

end Rendering
end Bindwright
