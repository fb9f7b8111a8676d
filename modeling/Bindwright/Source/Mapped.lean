import Bindwright.Source.ItemGrammar

namespace Bindwright.Source

open Text

inductive MappedItem where
  | accepted (unchanged : Bool)
  | rejected (message : Option String)

namespace MappedItem

def noName : String := "expected a native name, e.g. #[map_structure(\"VkExtent3D\")]"
def emptyName : String := "native name must not be empty"
def noType : String := "#[map_structure] applies to a struct, enum, type alias or trait"

def isType : Item → Bool
  | .structure _ | .enumeration _ | .synonym .. | .behaviour _ => true
  | _ => false

def check (argument item : List Tree) : MappedItem :=
  match argument with
  | [.literal (.text key) _ _] =>
    if key.toList.all isBlank then .rejected (some emptyName)
    else
      match (Grammar.ofTrees item).item ⟨item, []⟩ with
      | some (form, ⟨[], written⟩) =>
        if isType form then
          .accepted (" ".intercalate written.reverse = Tree.spaced item)
        else .rejected (some noType)
      | _ => .rejected none
  | _ => .rejected (some noName)

end MappedItem
end Bindwright.Source
