import Bindwright.Vulkan.Chained

namespace Bindwright.Vulkan

open Memory

inductive Extension (ι : Type) where
  | maintenance3 (a : PhysicalDeviceMaintenance3Properties ι)
  | other (item : ι)
  deriving DecidableEq, Repr

namespace Extension

variable {ι : Type}

def text (item : ι → String) : Extension ι → String
  | maintenance3 a => a.text item
  | other i => item i

variable [Chain.Item ι]

instance : Chain.Item (Extension ι) where
  structureType
    | maintenance3 a => Chain.Item.structureType a
    | other i => Chain.Item.structureType i
  allocate
    | maintenance3 a => Chain.Item.allocate a
    | other i => Chain.Item.allocate i

/-- An item is read without its link: the walk over the chain it stands in goes on there. -/
def maintenance3Reader : Chain.Reader (Extension ι) where
  structureType := Enumeration.value StructureType.physicalDeviceMaintenance3Properties
  layout := Structure.layout (PhysicalDeviceMaintenance3Properties ι)
  read s := return maintenance3 (← Structure.read s)

def readers (others : List (Chain.Reader ι)) : List (Chain.Reader (Extension ι)) :=
  maintenance3Reader :: others.map (·.map other)

end Extension
end Bindwright.Vulkan
