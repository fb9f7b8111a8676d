import Bindwright.Emit.MemberCode
import Bindwright.Emit.Code
import Bindwright.Member.Classified
import Bindwright.Naming.Native
import Bindwright.Text.Affix

namespace Bindwright

structure StructureFile where
  native : NativeType
  name : String
  members : List ClassifiedMember
  separator : Char
  date : String

namespace StructureFile

def viewName (f : StructureFile) : String := f.name ++ "Native"

def chain? (f : StructureFile) : Option ClassifiedMember :=
  f.members.find? (·.shape = .nextChain)

def structureType? (f : StructureFile) : Option ClassifiedMember :=
  f.members.find? (·.member.name = structureTypeMember)

def exports (f : StructureFile) : List String :=
  [f.name, f.viewName] ++
    if f.chain?.isSome then [nextTraitName f.name, nextSliceName f.name] else []

def requirements (f : StructureFile) : List String :=
  [f.native.path, Support.generated, Support.layout, Support.rawError, Support.segment,
    Support.segmentAllocator, Support.structureTrait] ++
    f.members.flatMap fun m => m.shape.requirements m.binding.rawType

def imports (f : StructureFile) : ImportTable :=
  (f.exports.foldl ImportTable.reserve .empty).requireAll f.requirements

def site (f : StructureFile) (m : ClassifiedMember) : MemberSite :=
  { imports := f.imports
    native := f.imports.name f.native.path
    member := m.member.name
    field := m.field
    rawType := m.binding.rawType
    separator := f.separator
    owner := f.name }

def fields (f : StructureFile) : List (String × String) :=
  f.members.map fun m => (m.field, m.shape.valueType (f.site m))

def derives (f : StructureFile) : String :=
  if f.members.all (·.shape.isPlainValue) then "Debug, Clone, PartialEq" else "Debug"

def valueStruct (f : StructureFile) : String :=
  "/// Value representation of \x60" ++ f.native.name ++ "\x60\n" ++
    "#[derive(" ++ f.derives ++ ")]\n" ++
    "pub struct " ++ f.name ++ " \x7b\n" ++
    String.join (f.fields.map fun (field, type) => "    pub " ++ field ++ ": " ++ type ++ ",\n") ++
    "\x7d\n"

def extraMethods (f : StructureFile) : List String :=
  f.members.filterMap fun m =>
    m.shape.extraMethod? (f.site m) (Naming.functionAccessorName m.member.name)

def inherentImpl (f : StructureFile) : String :=
  "impl " ++ f.name ++ " \x7b\n" ++ generatedConstant f.imports f.date f.native.name ++
    String.join (f.extraMethods.map fun method => "\n" ++ Text.indent 4 method ++ "\n") ++
    "\x7d\n"

def fieldReads (f : StructureFile) : String :=
  String.join <| f.members.map fun m =>
    "            " ++ m.field ++ ": " ++
      Text.indentTail 12 (m.shape.read (f.site m) "raw").render ++
      (if m.shape.isFallible then "?" else "") ++ ",\n"

def fieldWrites (f : StructureFile) : String :=
  String.join <| f.members.map fun m =>
    Text.indent 8 (m.shape.write (f.site m) "destination" "allocator").render ++ "\n"

def parameter (name : String) (used : Bool) : String := if used then name else "_" ++ name

def conversions (f : StructureFile) : String :=
  let name := f.imports.name
  -- Without members neither the segment nor the destination is used.
  let used := !f.members.isEmpty
  let allocates := f.members.any (·.shape.needsAllocator)
  "impl " ++ name Support.structureTrait ++ " for " ++ f.name ++ " \x7b\n" ++
    "    fn layout() -> " ++ name Support.layout ++ " \x7b\n" ++
    "        " ++ name f.native.path ++ "::LAYOUT\n" ++
    "    \x7d\n\n" ++
    "    fn of(" ++ parameter "raw" used ++ ": " ++ name Support.segment ++
      "<'_>) -> Result<Self, " ++ name Support.rawError ++ "> \x7b\n" ++
    "        Ok(Self \x7b\n" ++ f.fieldReads ++ "        \x7d)\n" ++
    "    \x7d\n\n" ++
    "    fn write_raw<'a>(\n" ++
    "        &self,\n" ++
    "        " ++ parameter "destination" used ++ ": " ++ name Support.segment ++ "<'a>,\n" ++
    "        " ++ parameter "allocator" allocates ++ ": &'a dyn " ++
      name Support.segmentAllocator ++ ",\n" ++
    "    ) -> Result<(), " ++ name Support.rawError ++ "> \x7b\n" ++ f.fieldWrites ++
    "        Ok(())\n" ++
    "    \x7d\n" ++
    "\x7d\n"

def discriminant? (m : ClassifiedMember) : Option String :=
  let field := "self." ++ m.field
  match m.shape with
  | .enumValue _ valueType =>
    some (if valueType = "i32" then field ++ ".value()" else field ++ ".value() as i32")
  | .scalar rawType => some (if rawType = "i32" then field else field ++ " as i32")
  | _ => none

/-- How a value joins the chain of another structure. One with a chain of its own is refused, since
only the outermost link is set. -/
def chainItem? (f : StructureFile) : Option String := do
  let chain ← f.chain?
  let discriminant ← discriminant? (← f.structureType?)
  let name := f.imports.name
  return "impl " ++ name Support.nextStructure ++ " for " ++ f.name ++ " \x7b\n" ++
    "    fn structure_type(&self) -> i32 \x7b\n" ++
    "        " ++ discriminant ++ "\n" ++
    "    \x7d\n\n" ++
    "    fn allocate_raw<'a>(\n" ++
    "        &self,\n" ++
    "        allocator: &'a dyn " ++ name Support.segmentAllocator ++ ",\n" ++
    "    ) -> Result<" ++ name Support.segment ++ "<'a>, " ++ name Support.rawError ++
      "> \x7b\n" ++
    "        if !self." ++ chain.field ++ ".is_empty() \x7b\n" ++
    "            return Err(" ++ name Support.rawError ++ "::NestedChain \x7b\n" ++
    "                structure_type: self.structure_type(),\n" ++
    "            \x7d);\n" ++
    "        \x7d\n" ++
    "        self.as_raw(allocator)\n" ++
    "    \x7d\n" ++
    "\x7d\n"

def viewMethod (f : StructureFile) (m : ClassifiedMember) : String :=
  let site := f.site m
  let rawError := f.imports.name Support.rawError
  let result := "Result<" ++ m.shape.valueType site ++ ", " ++ rawError ++ ">"
  match m.shape.chainWalk? site "self.raw" with
  | some walk =>
    "\n    /// Read the structures chained behind the viewed one\n" ++
      "    ///\n" ++
      "    /// # Safety\n" ++
      "    ///\n" ++
      "    /// Every non-null link reachable from the viewed memory must address a\n" ++
      "    /// live chainable structure at least as large as the layout registered\n" ++
      "    /// for its type.\n" ++
      "    pub unsafe fn " ++ m.field ++ "(&self) -> " ++ result ++ " \x7b\n" ++
      "        unsafe \x7b " ++ walk.render ++ " \x7d\n" ++
      "    \x7d\n"
  | none =>
    "\n    pub fn " ++ m.field ++ "(&self) -> " ++
      (if m.shape.isFallible then result else m.shape.valueType site) ++ " \x7b\n" ++
      "        " ++ Text.indentTail 8 (m.shape.read site "self.raw").render ++ "\n" ++
      "    \x7d\n"

def view (f : StructureFile) : String :=
  let segment := f.imports.name Support.segment
  "/// Zero-copy view of a native \x60" ++ f.native.name ++ "\x60\n" ++
    "#[derive(Debug, Clone, Copy)]\n" ++
    "pub struct " ++ f.viewName ++ "<'a> \x7b\n" ++
    "    raw: " ++ segment ++ "<'a>,\n" ++
    "\x7d\n\n" ++
    "impl<'a> " ++ f.viewName ++ "<'a> \x7b\n" ++
    "    /// Wrap native memory holding a \x60" ++ f.native.name ++ "\x60\n" ++
    "    pub fn new(raw: " ++ segment ++ "<'a>) -> Self \x7b\n" ++
    "        Self \x7b raw \x7d\n" ++
    "    \x7d\n\n" ++
    "    pub fn raw(&self) -> " ++ segment ++ "<'a> \x7b\n" ++
    "        self.raw\n" ++
    "    \x7d\n\n" ++
    "    /// Copy the viewed memory into a [\x60" ++ f.name ++ "\x60]\n" ++
    "    pub fn to_value(&self) -> Result<" ++ f.name ++ ", " ++
      f.imports.name Support.rawError ++ "> \x7b\n" ++
    "        " ++ f.name ++ "::of(self.raw)\n" ++
    "    \x7d\n" ++
    String.join (f.members.map f.viewMethod) ++
    "\x7d\n"

def extraItems (f : StructureFile) : List String :=
  f.members.filterMap fun m => m.shape.extraItems? (f.site m)

def text (f : StructureFile) : String :=
  generatedHeader f.native.name ++ "\n" ++ f.imports.render ++ "\n\n" ++
    f.valueStruct ++ "\n" ++ f.inherentImpl ++ "\n" ++ f.conversions ++ "\n" ++
    ((f.chainItem?.map (· ++ "\n")).getD "") ++ f.view ++
    String.join (f.extraItems.map fun items => "\n" ++ items ++ "\n")

end StructureFile
end Bindwright
