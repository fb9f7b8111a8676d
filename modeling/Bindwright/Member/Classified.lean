import Bindwright.Emit.Code
import Bindwright.Member.Shape
import Bindwright.Registry.Basic

namespace Bindwright

namespace NativeType

def unresolved (t : NativeType) (m : Member) : Failure :=
  .unresolvedMember t.name m.name m.typeName m.declarator.toString
    (t.documentationLocation m.position)

def mappedShape (t : NativeType) (m : Member) (r : Registry) :
    Mapping → Except Failure MemberShape
  | .functionPointer _ path => .ok (.functionPointer path)
  | .existing _ path | .replacement _ path _ => .ok (.mappedValue path)
  | .pending q =>
    .ok <| match q.product with
      | .wrapper => .mappedValue q.destination.path
      | .constants .flags .. => .flagSet q.destination.path
      | .constants .values _ valueType => .enumValue q.destination.path valueType
  | .flagBits _ flags =>
    match r.get? flags with
    | some (.pending q) => .ok (.flagBit q.destination.path)
    | some other =>
      match other.existingPath? with
      | some path => .ok (.flagBit path)
      | none => .error (t.unresolved m)
    | none => .error (t.unresolved m)

/-- The shape of a member that is an array of a type. A mapping for the type and the member's name
together takes the whole array. -/
def arrayShape (t : NativeType) (m : Member) (r : Registry) (b : Bindings) :
    Except Failure MemberShape :=
  if m.typeName = "char" then .ok .text
  else if m.typeName = "float" then .ok (.primitiveArray "f32" Support.f32Layout)
  else if m.typeName = "double" then .ok (.primitiveArray "f64" Support.f64Layout)
  else
    match (r.get? (m.typeName ++ " " ++ m.name)).bind Mapping.existingPath? with
    | some path => .ok (.mappedValue path)
    | none =>
      match (r.get? m.typeName).bind Mapping.structurePath? with
      | some target => .ok (.mappedArray target)
      | none =>
        match b.layout? m.typeName with
        | none =>
          .error (.missingLayout t.name m.name m.typeName (t.documentationLocation m.position))
        | some layout =>
          .ok <| match layout.element with
            | .address => .handleArray layout.path
            | .value element => .primitiveArray element layout.path

def shapeOf (t : NativeType) (m : Member) (rawType : String) (r : Registry) (b : Bindings) :
    Except Failure MemberShape :=
  match m.declarator with
  | .value =>
    match r.get? m.typeName with
    | some mapping => t.mappedShape m r mapping
    | none => .ok (.scalar rawType)
  | .pointer inner =>
    if inner = .value ∧ m.typeName = "void" ∧ m.name = nextMember then .ok .nextChain
    else .ok .opaqueHandle
  | .function _ => .ok .opaqueHandle
  | .array .value => t.arrayShape m r b
  | .array _ => .error (t.unresolved m)

end NativeType

structure ClassifiedMember where
  member : Member
  binding : MemberBinding
  shape : MemberShape
  field : String
  deriving DecidableEq, Repr

namespace NativeType

def checkAccessors (t : NativeType) (separator : Char) (m : Member) (binding : MemberBinding)
    (expected : AccessorKind) : Except Failure Unit :=
  if binding.kind ≠ expected then
    .error (.missingBinding t.name m.name ("expected a \x60" ++ expected.word ++
      "\x60 accessor, found \x60" ++ binding.accessor ++ "\x60") binding.location)
  else if expected = .get ∧ (t.accessor? (setterName m.name separator)).isNone then
    .error (.missingBinding t.name m.name ("no \x60" ++ setterName m.name separator ++
      "\x60 accessor") binding.location)
  else .ok ()

def classifyMember (t : NativeType) (bound : Table String MemberBinding) (r : Registry)
    (b : Bindings) (m : Member) : Except Failure ClassifiedMember := do
  match bound.find? m.name with
  | none => .error (t.unboundMember m)
  | some binding =>
    let shape ← t.shapeOf m binding.rawType r b
    t.checkAccessors b.separator m binding shape.accessorKind
    return ⟨m, binding, shape, memberFieldName m.name⟩

def classify (t : NativeType) (bound : Table String MemberBinding) (r : Registry) (b : Bindings)
    (members : List Member) : Except Failure (List ClassifiedMember) :=
  members.mapM (t.classifyMember bound r b)

end NativeType
end Bindwright
