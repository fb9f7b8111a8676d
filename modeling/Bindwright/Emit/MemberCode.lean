import Bindwright.Emit.Code
import Bindwright.Emit.ImportTable
import Bindwright.Member.Shape

namespace Bindwright

structure MemberSite where
  imports : ImportTable
  native : String
  member : String
  field : String
  rawType : String
  separator : Char
  owner : String

namespace MemberSite

def get (s : MemberSite) (raw : String) : Code :=
  .call s.native (accessorName s.member s.separator AccessorKind.get.word) raw

def slice (s : MemberSite) (raw : String) : Code :=
  .call s.native (accessorName s.member s.separator AccessorKind.slice.word) raw

def set (s : MemberSite) (destination : String) (value : Code) : Code :=
  .call s.native (setterName s.member s.separator) (.text (destination ++ ", ") ++ value) ++
    Code.text ";"

def ownField (s : MemberSite) : String := "self." ++ s.field

end MemberSite

def Code.cast (c : Code) (source target : String) : Code :=
  if source = target then c else c ++ Code.text (" as " ++ target)

namespace MemberShape

def layoutModule (layout : String) : List String :=
  ((ItemPath.splitLast? layout).map (·.1)).toList

def requirements (s : MemberShape) (rawType : String) : List String :=
  match s with
  | functionPointer pointer => [Support.address, pointer, Support.transmute, rawType]
  | mappedValue target => [target, rawType]
  | mappedArray target => [target, Support.readElements, Support.writeElements, rawType]
  | flagSet flag => [Support.flagSet, flag, rawType]
  | enumValue target _ => [target, rawType]
  | flagBit target => [target, Support.bitFlag, rawType]
  | scalar type => [type, rawType]
  | nextChain =>
    [Support.linkChain, Support.readChain, Support.nextReader, Support.nextStructure,
      Support.distributedSlice]
  | opaqueHandle => [Support.address, rawType]
  | text => [rawType]
  | primitiveArray _ layout => layoutModule layout ++ [rawType]
  | handleArray layout => Support.address :: layoutModule layout ++ [rawType]

def valueType (s : MemberShape) (site : MemberSite) : String :=
  let name := site.imports.name
  match s with
  | functionPointer _ | opaqueHandle => name Support.address
  | mappedValue target | enumValue target _ | flagBit target => name target
  | flagSet flag => name Support.flagSet ++ "<" ++ name flag ++ ">"
  | scalar type => name type
  | nextChain => "Vec<Box<dyn " ++ nextTraitName site.owner ++ ">>"
  | text => "String"
  | primitiveArray element _ => "Vec<" ++ element ++ ">"
  | mappedArray target => "Vec<" ++ name target ++ ">"
  | handleArray _ => "Vec<" ++ name Support.address ++ ">"

def isFallible : MemberShape → Bool
  | mappedValue _ | enumValue .. | flagBit _ | text | mappedArray _ => true
  | _ => false

/-- An expression that reads the member from the segment `raw`. A link is not followed. -/
def read (s : MemberShape) (site : MemberSite) (raw : String) : Code :=
  let name := site.imports.name
  match s with
  | functionPointer _ | scalar _ | opaqueHandle => site.get raw
  | mappedValue target => .text (name target ++ "::of(") ++ site.slice raw ++ .text ")"
  | flagSet _ =>
    .text (name Support.flagSet ++ "::from_bits(") ++ (site.get raw).cast site.rawType "u32" ++
      .text ")"
  | enumValue target valueType =>
    .text (name target ++ "::of(") ++ (site.get raw).cast site.rawType valueType ++ .text ")"
  | flagBit target =>
    .text (name target ++ "::of_bit(") ++ (site.get raw).cast site.rawType "u32" ++ .text ")"
  | nextChain => "Vec::new()"
  | text => site.slice raw ++ .text ".read_c_str()"
  | primitiveArray _ layout =>
    site.slice raw ++ .text (".to_vec(" ++ site.imports.member layout ++ ")")
  | mappedArray target =>
    .text (name Support.readElements ++ "::<" ++ name target ++ ">(") ++ site.slice raw ++ .text ")"
  | handleArray layout =>
    site.slice raw ++ .text (".to_addresses(" ++ site.imports.member layout ++ ")")

def chainWalk? (s : MemberShape) (site : MemberSite) (raw : String) : Option Code :=
  match s with
  | nextChain =>
    some (.text (site.imports.name Support.readChain ++ "(") ++ site.get raw ++
      .text (", &" ++ nextSliceName site.owner ++ ")"))
  | _ => none

def write (s : MemberShape) (site : MemberSite) (destination allocator : String) : Code :=
  let value := site.ownField
  let raw := site.imports.name site.rawType
  match s with
  | functionPointer _ | scalar _ | opaqueHandle => site.set destination value
  | mappedValue _ =>
    .text (value ++ ".write_raw(") ++ site.slice destination ++ .text (", " ++ allocator ++ ")?;")
  | flagSet _ => site.set destination ((Code.text (value ++ ".bits()")).cast "u32" raw)
  | enumValue _ valueType =>
    site.set destination ((Code.text (value ++ ".value()")).cast valueType raw)
  | flagBit _ => site.set destination ((Code.text (value ++ ".bit()")).cast "u32" raw)
  | nextChain =>
    site.set destination <|
      .text (site.imports.name Support.linkChain ++ "(" ++ value ++ ".iter(), ") ++
        site.get destination ++ .text (", " ++ allocator ++ ")?")
  | text => site.slice destination ++ .text (".write_c_str(&" ++ value ++ ")?;")
  | primitiveArray _ layout =>
    site.slice destination ++
      .text (".copy_from_values(" ++ site.imports.member layout ++ ", &" ++ value ++ ")?;")
  | mappedArray _ =>
    .text (site.imports.name Support.writeElements ++ "(") ++ site.slice destination ++
      .text (", &" ++ value ++ ", " ++ allocator ++ ")?;")
  | handleArray layout =>
    site.slice destination ++
      .text (".copy_from_addresses(" ++ site.imports.member layout ++ ", &" ++ value ++ ")?;")

def extraMethod? (s : MemberShape) (site : MemberSite) (method : String) : Option String :=
  let name := site.imports.name
  match s with
  | functionPointer path =>
    let pointer := name path
    some <| "\n".intercalate
      ["/// Reinterpret \x60" ++ site.field ++ "\x60 as \x60" ++ pointer ++ "\x60",
       "///",
       "/// # Safety",
       "///",
       "/// \x60" ++ site.field ++
         "\x60 must be null or the address of a function with that signature.",
       "pub unsafe fn " ++ method ++ "(&self) -> " ++ pointer ++ " \x7b",
       "    unsafe \x7b " ++ name Support.transmute ++ "::<usize, " ++ pointer ++ ">(self." ++
         site.field ++ ".get()) \x7d",
       "\x7d"]
  | nextChain =>
    (s.chainWalk? site "raw").map fun walk => "\n".intercalate
      ["/// Read a value out of native memory, following its next chain",
       "///",
       "/// # Safety",
       "///",
       "/// Every non-null link reachable from \x60raw\x60 must address a live chainable",
       "/// structure at least as large as the layout registered for its type.",
       "pub unsafe fn of_with_chain(raw: " ++ name Support.segment ++ "<'_>) -> Result<Self, " ++
         name Support.rawError ++ "> \x7b",
       "    let mut value = <Self as " ++ name Support.structureTrait ++ ">::of(raw)?;",
       "    value." ++ site.field ++ " = unsafe \x7b " ++ walk.render ++ " \x7d?;",
       "    Ok(value)",
       "\x7d"]
  | _ => none

def extraItems? (s : MemberShape) (site : MemberSite) : Option String :=
  let name := site.imports.name
  match s with
  | nextChain => some <| "\n".intercalate
      ["/// Structures that can extend a [\x60" ++ site.owner ++ "\x60] through its next chain",
       "pub trait " ++ nextTraitName site.owner ++ ": " ++ name Support.nextStructure ++
         " \x7b\x7d",
       "",
       "/// Readers for every structure registered to extend a [\x60" ++ site.owner ++ "\x60]",
       "#[" ++ name Support.distributedSlice ++ "]",
       "pub static " ++ nextSliceName site.owner ++ ": [" ++ name Support.nextReader ++ "<dyn " ++
         nextTraitName site.owner ++ ">];"]
  | _ => none

end MemberShape
end Bindwright
