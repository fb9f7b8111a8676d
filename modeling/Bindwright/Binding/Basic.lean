import Bindwright.Location
import Bindwright.ItemPath

namespace Bindwright

structure Accessor where
  name : String
  parameters : List String
  returnType : Option String
  location : Location
  deriving DecidableEq, Repr

structure NativeType where
  name : String
  path : String
  documentation : String
  documentationLine : Nat
  accessors : List Accessor
  hasLayout : Bool
  location : Location
  deriving DecidableEq, Repr

namespace NativeType

def accessor? (t : NativeType) (name : String) : Option Accessor :=
  t.accessors.find? (·.name = name)

def documentationLocation (t : NativeType) (p : Text.Position) : Location :=
  ⟨t.location.file, some (t.documentationLine + (p.line - 1)), some p.column⟩

end NativeType

structure FunctionPointer where
  name : String
  path : String
  location : Location
  deriving DecidableEq, Repr

inductive ConstantForm where
  | const
  | function
  deriving DecidableEq, Repr

structure HeaderConstant where
  name : String
  module : String
  typeName : String
  value : Option Int
  documentation : String
  form : ConstantForm
  location : Location
  deriving DecidableEq, Repr

def HeaderConstant.expression (c : HeaderConstant) : String :=
  ItemPath.join (ItemPath.simpleName c.module) <|
    match c.form with
    | .const => c.name
    | .function => c.name ++ "()"

inductive ArrayElement where
  | value (type : String)
  | address
  deriving DecidableEq, Repr

structure LayoutConstant where
  name : String
  path : String
  element : ArrayElement
  deriving DecidableEq, Repr

structure Bindings where
  types : List (String × NativeType)
  functionPointers : List (String × FunctionPointer)
  constants : List HeaderConstant
  layouts : List LayoutConstant
  headerModule : String
  -- What stands between a member's name and the kind of its accessor.
  separator : Char
  deriving Repr

namespace Bindings

def typesIn (b : Bindings) (module : String) : List NativeType :=
  (b.types.filter (·.1 = module)).map (·.2)

def functionPointersIn (b : Bindings) (module : String) : List FunctionPointer :=
  (b.functionPointers.filter (·.1 = module)).map (·.2)

def layout? (b : Bindings) (typeName : String) : Option LayoutConstant :=
  b.layouts.find? (·.name = typeName)

end Bindings
end Bindwright
