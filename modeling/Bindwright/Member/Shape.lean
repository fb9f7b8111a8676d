import Bindwright.Binding.Member
import Bindwright.Naming.Casing

namespace Bindwright

inductive MemberShape where
  | functionPointer (pointer : String)
  | mappedValue (target : String)
  | flagSet (flag : String)
  | enumValue (target valueType : String)
  | flagBit (target : String)
  | scalar (rawType : String)
  | nextChain
  | opaqueHandle
  | text
  | primitiveArray (element layout : String)
  | mappedArray (target : String)
  | handleArray (layout : String)
  deriving DecidableEq, Repr

namespace MemberShape

def accessorKind : MemberShape → AccessorKind
  | mappedValue _ | text | primitiveArray .. | mappedArray _ | handleArray _ => .slice
  | _ => .get

def needsAllocator : MemberShape → Bool
  | mappedValue _ | mappedArray _ | nextChain => true
  | _ => false

def isPlainValue (s : MemberShape) : Bool := s != nextChain

end MemberShape

def nextMember : String := "pNext"

def structureTypeMember : String := "sType"

def viewMethods : List String := ["new", "raw", "to_value"]

/-- What a member's field is called. The link is `next`, and a name that the view has taken gets a
suffix. -/
def memberFieldName (member : String) : String :=
  if member = nextMember then "next"
  else
    let field := Naming.fieldName member
    if viewMethods.contains field then field ++ "_field" else field

def nextTraitName (owner : String) : String := owner ++ "Next"

def nextSliceName (owner : String) : String := Naming.screamingSnakeCase owner ++ "_NEXT"

end Bindwright
