import Bindwright.Binding.Basic
import Bindwright.Declaration.Basic
import Bindwright.Diagnostic
import Bindwright.Table

namespace Bindwright

open Text

inductive AccessorKind where
  | get
  | slice
  deriving DecidableEq, Repr

def AccessorKind.word : AccessorKind → String
  | get => "get"
  | slice => "slice"

def AccessorKind.ofWord? (word : List Char) : Option AccessorKind :=
  if word = AccessorKind.get.word.toList then some .get
  else if word = AccessorKind.slice.word.toList then some .slice
  else none

structure MemberBinding where
  kind : AccessorKind
  rawType : String
  accessor : String
  location : Location
  deriving DecidableEq, Repr

def accessorName (member : String) (separator : Char) (suffix : String) : String :=
  member ++ String.singleton separator ++ suffix

def setterName (member : String) (separator : Char) : String := accessorName member separator "set"

def splitAccessorName? (name : String) (separator : Char) : Option (String × AccessorKind) := do
  let (member, word) ← splitLast? separator name.toList
  if member.isEmpty then none
  else return (String.ofList member, ← AccessorKind.ofWord? word)

def Accessor.takesSegment (a : Accessor) : Bool :=
  match a.parameters with
  | [type] => ItemPath.simpleName type = "Segment"
  | _ => false

def Accessor.binding? (separator : Char) (a : Accessor) : Option (String × MemberBinding) := do
  if !a.takesSegment then none
  else
    let rawType ← a.returnType
    let (member, kind) ← splitAccessorName? a.name separator
    return (member, ⟨kind, rawType, a.name, a.location⟩)

namespace NativeType

def bindAccessor (t : NativeType) (separator : Char) (bound : Table String MemberBinding)
    (a : Accessor) : Except Failure (Table String MemberBinding) :=
  match a.binding? separator with
  | none => .ok bound
  | some (member, binding) =>
    if bound.contains member then .error (.duplicateAccessor t.name member a.location)
    else .ok (bound.insert member binding)

def bindings (t : NativeType) (separator : Char) : Except Failure (Table String MemberBinding) :=
  t.accessors.foldlM (t.bindAccessor separator) .empty

def unboundMember (t : NativeType) (m : Member) : Failure :=
  .missingBinding t.name m.name "no accessor found for member" (t.documentationLocation m.position)

def undeclaredMember (t : NativeType) (member : String) (b : MemberBinding) : Failure :=
  .missingBinding t.name member ("accessor \x60" ++ b.accessor ++ "\x60 has no declared member")
    b.location

/-- Every declared member has a binding and every binding a declared member. -/
def matchMembers (t : NativeType) (members : List Member) (bound : Table String MemberBinding) :
    Except Failure Unit :=
  match members.find? fun m => !bound.contains m.name with
  | some m => .error (t.unboundMember m)
  | none =>
    match bound.entries.find? fun (name, _) => !members.any (·.name = name) with
    | some (name, b) => .error (t.undeclaredMember name b)
    | none => .ok ()

end NativeType
end Bindwright
