import Bindwright.Emit.Code
import Bindwright.Registry.Header

namespace Bindwright

structure ConstantsFile where
  native : String
  name : String
  group : Naming.ConstantGroup
  constants : List HeaderConstant
  valueType : String
  date : String

namespace ConstantsFile

def ofRequest? (q : Request) (date : String) : Option ConstantsFile :=
  match q.product with
  | .wrapper => none
  | .constants group constants valueType =>
    some ⟨q.native, q.destination.name, group, constants, valueType, date⟩

def exports (f : ConstantsFile) : List String := [f.name]

def variants (f : ConstantsFile) : List String := variantNames f.group f.name f.constants

def imports (f : ConstantsFile) : ImportTable :=
  ((ImportTable.empty.reserve f.name).requireAll <|
    [Support.generated, Support.rawError] ++
      match f.group with
      | .flags => [Support.bitFlag, Support.flagFromBit]
      | .values => []).requireAll (f.constants.map (·.module))

def numberType (f : ConstantsFile) : String :=
  match f.group with
  | .flags => "u32"
  | .values => f.valueType

def number (f : ConstantsFile) (c : HeaderConstant) : String :=
  if c.typeName = f.numberType then c.expression else c.expression ++ " as " ++ f.numberType

def declaration (f : ConstantsFile) : String :=
  "/// Generated from \x60" ++ f.native ++ "\x60\n" ++
    "#[derive(Debug, Clone, Copy, PartialEq, Eq, Hash)]\n" ++
    "pub enum " ++ f.name ++ " \x7b\n" ++
    String.join ((f.variants.zip f.constants).map fun (variant, c) =>
      "    /// \x60" ++ c.name ++ "\x60\n    " ++ variant ++ ",\n") ++
    "\x7d\n"

def all (f : ConstantsFile) : String := ", ".intercalate (f.variants.map ("Self::" ++ ·))

def arms (f : ConstantsFile) : String :=
  String.join <| (f.variants.zip f.constants).map fun (variant, c) =>
    "            Self::" ++ variant ++ " => " ++ f.number c ++ ",\n"

def flagMethods (f : ConstantsFile) : String :=
  let name := f.imports.name
  "\n    /// Flag for an exact bit\n" ++
    "    pub fn of_bit(bit: u32) -> Result<Self, " ++ name Support.rawError ++ "> \x7b\n" ++
    "        " ++ name Support.flagFromBit ++ "(bit, " ++ Text.quoted f.name ++ ")\n" ++
    "    \x7d\n" ++
    "\x7d\n\n" ++
    "impl " ++ name Support.bitFlag ++ " for " ++ f.name ++ " \x7b\n" ++
    "    const ALL: &'static [Self] = &[" ++ f.all ++ "];\n\n" ++
    "    fn bit(self) -> u32 \x7b\n" ++
    "        match self \x7b\n" ++ f.arms ++ "        \x7d\n" ++
    "    \x7d\n" ++
    "\x7d\n"

def valueMethods (f : ConstantsFile) : String :=
  let rawError := f.imports.name Support.rawError
  "\n    /// Every variant, in declaration order\n" ++
    "    pub const ALL: &'static [Self] = &[" ++ f.all ++ "];\n\n" ++
    "    /// Native value of the variant\n" ++
    "    pub fn value(self) -> " ++ f.valueType ++ " \x7b\n" ++
    "        match self \x7b\n" ++ f.arms ++ "        \x7d\n" ++
    "    \x7d\n\n" ++
    "    /// Variant for a native value; the first match wins\n" ++
    "    pub fn of(value: " ++ f.valueType ++ ") -> Result<Self, " ++ rawError ++ "> \x7b\n" ++
    "        Self::ALL\n" ++
    "            .iter()\n" ++
    "            .copied()\n" ++
    "            .find(|variant| variant.value() == value)\n" ++
    "            .ok_or(" ++ rawError ++ "::UnknownValue \x7b\n" ++
    "                type_name: " ++ Text.quoted f.name ++ ",\n" ++
    "                value: value as i64,\n" ++
    "            \x7d)\n" ++
    "    \x7d\n" ++
    "\x7d\n"

def methods (f : ConstantsFile) : String :=
  match f.group with
  | .flags => f.flagMethods
  | .values => f.valueMethods

def text (f : ConstantsFile) : String :=
  generatedHeader f.native ++ "\n" ++ f.imports.render ++ "\n\n" ++ f.declaration ++ "\n" ++
    "impl " ++ f.name ++ " \x7b\n" ++ generatedConstant f.imports f.date f.native ++ f.methods

end ConstantsFile
end Bindwright
