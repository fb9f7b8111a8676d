import Bindwright.Emit.ImportTable
import Bindwright.Text.Quoted

namespace Bindwright.Support

def address : String := "lawu_runtime::Address"
def bitFlag : String := "lawu_runtime::BitFlag"
def flagFromBit : String := "lawu_runtime::flag_from_bit"
def flagSet : String := "lawu_runtime::FlagSet"
def generated : String := "lawu_runtime::Generated"
def layout : String := "lawu_runtime::Layout"
def linkChain : String := "lawu_runtime::link_chain"
def nextReader : String := "lawu_runtime::NextReader"
def nextStructure : String := "lawu_runtime::NextStructure"
def rawError : String := "lawu_runtime::RawError"
def readChain : String := "lawu_runtime::read_chain"
def readElements : String := "lawu_runtime::read_elements"
def segment : String := "lawu_runtime::Segment"
def segmentAllocator : String := "lawu_runtime::SegmentAllocator"
def structureTrait : String := "lawu_runtime::Structure"
def writeElements : String := "lawu_runtime::write_elements"
def f32Layout : String := "lawu_runtime::layout::F32"
def f64Layout : String := "lawu_runtime::layout::F64"
def transmute : String := "std::mem::transmute"
def distributedSlice : String := "linkme::distributed_slice"

end Bindwright.Support

namespace Bindwright

inductive Code where
  | text (s : String)
  | call (type accessor : String) (arguments : Code)
  | append (a b : Code)
  deriving DecidableEq, Repr

namespace Code

instance : Append Code := ⟨append⟩
instance : Coe String Code := ⟨text⟩

def render : Code → String
  | text s => s
  | call type accessor arguments => type ++ "::" ++ accessor ++ "(" ++ render arguments ++ ")"
  | append a b => render a ++ render b

def calls : Code → List String
  | text _ => []
  | call _ accessor arguments => accessor :: calls arguments
  | append a b => calls a ++ calls b

@[simp] theorem render_append (a b : Code) : (a ++ b).render = a.render ++ b.render := rfl
@[simp] theorem render_text (s : String) : (text s).render = s := rfl
@[simp] theorem calls_append (a b : Code) : (a ++ b).calls = a.calls ++ b.calls := rfl
@[simp] theorem calls_text (s : String) : (text s).calls = [] := rfl

end Code
def generatorName : String := "lawu-weld"

def generatedHeader (native : String) : String :=
  "// @generated by " ++ generatorName ++ " from " ++ (native ++ ". Do not edit.\n")

def generatedConstant (imports : ImportTable) (date native : String) : String :=
  let generated := imports.name Support.generated
  "    pub const GENERATED: " ++ generated ++ " = " ++ generated ++ " \x7b\n" ++
    "        generator: " ++ Text.quoted generatorName ++ ",\n" ++
    "        date: " ++ Text.quoted date ++ ",\n" ++
    "        source: " ++ Text.quoted native ++ ",\n    \x7d;\n"

end Bindwright
