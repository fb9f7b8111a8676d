import Bindwright.Naming.Number
import Bindwright.Naming.Casing

/-!
Native names and the names made from them. Native types begin with `Vk`, function pointers with
`PFN_vk`, constants with `VK_`; an extension's names end in its tag, in capitals.
-/

namespace Bindwright.Naming

open Text

def typePrefix : List Char := "Vk".toList
def functionPointerPrefix : List Char := "PFN_vk".toList
def constantPrefix : List Char := "VK_".toList
def bitSuffix : List Char := "_BIT".toList

inductive ConstantGroup where
  | flags
  | values
  deriving DecidableEq, Repr

def isExtensionName (name : String) : Bool :=
  match name.toList.reverse with
  | last :: before :: _ => isUppercase last && isUppercase before
  | _ => false

def isCoreName (name : String) : Bool :=
  startsWith typePrefix name.toList && !isExtensionName name

def isCoreFunctionPointerName (name : String) : Bool :=
  startsWith functionPointerPrefix name.toList && !isExtensionName name

/-- Spellings that are changed before an extension's tag is cut off. -/
def respellings : List (List Char × List Char) :=
  [("3D".toList, "3d".toList), ("2D".toList, "2d".toList),
   ("RGBA10X6".toList, "Rgba10x6".toList)]

def structureNameChars (native : List Char) : List Char :=
  let bare := (afterPrefix? typePrefix native).getD native
  trimEndWhile isUppercase (respellings.foldl (fun cs (old, new) => replaceAll old new cs) bare)

/-- The name of the structure that wraps a native one, and that of an enumeration. -/
def structureName (native : String) : String :=
  String.ofList (structureNameChars native.toList)

/-- The name of one flag of a native flag type: `VkQueueFlags` has flags `QueueFlag`. -/
def flagName (native : String) : String :=
  let name := structureNameChars native.toList
  String.ofList ((beforeSuffix? "Flags".toList name).getD name ++ "Flag".toList)

def ConstantGroup.typeName : ConstantGroup → String → String
  | .flags, native => flagName native
  | .values, native => structureName native

def recase : List Char → List Char
  | [] => []
  | c :: rest =>
    upperOf c ++ rest.flatMap fun d => if isUppercase d then '_' :: upperOf d else upperOf d

/-- What the names of a type's constants begin with: `VK_QUEUE_` for flags `QueueFlag`,
`VK_FORMAT_` for values `Format`. -/
def ConstantGroup.constantPrefix (group : ConstantGroup) (destination : String) : String :=
  let name := recase destination.toList
  String.ofList <| Naming.constantPrefix ++
    match group with
    | .flags => (beforeSuffix? "FLAG".toList name).getD name
    | .values => name ++ ['_']

/-- What a constant is called in its group: `GRAPHICS` for `VK_QUEUE_GRAPHICS_BIT`. -/
def constantMemberName (constant start : String) : String :=
  let name := (beforeSuffix? bitSuffix constant.toList).getD constant.toList
  spellLeadingDigits (String.ofList ((afterPrefix? start.toList name).getD name))

def ConstantGroup.variantName (group : ConstantGroup) (destination constant : String) : String :=
  upperCamelCase (constantMemberName constant (group.constantPrefix destination))

/-- The accessor that gives a function pointer: `pfnAllocation` has `allocation`, and a member
without `pfn` before a capital takes a suffix. -/
def functionAccessorName (member : String) : String :=
  match afterPrefix? "pfn".toList member.toList with
  | some (c :: rest) =>
    if isUppercase c then fieldName (String.ofList (c :: rest))
    else snakeCase member ++ "_function"
  | _ => snakeCase member ++ "_function"

end Bindwright.Naming
