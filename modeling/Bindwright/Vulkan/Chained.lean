import Bindwright.Vulkan.Device

namespace Bindwright.Vulkan

open Memory

def storeUnchained {σ ι : Type} [Structure σ] (type : StructureType) (next : List ι) (a : σ) :
    Action Segment :=
  if next.isEmpty then Structure.store a
  else throw (.conversion (.nestedChain (Enumeration.value type)))

def sTypeSlot : Slot StructureType := .enumerator _ 0

def nextSlot : Slot Address := .scalar _ Chain.linkOffset

structure PhysicalDeviceProperties2 (ι : Type) where
  sType : StructureType
  next : List ι
  properties : PhysicalDeviceProperties
  deriving DecidableEq, Repr

namespace PhysicalDeviceProperties2

variable {ι : Type} [Chain.Item ι]

def propertiesSlot : Slot PhysicalDeviceProperties := .nested _ 16 312

instance : Record (PhysicalDeviceProperties2 ι) where
  nativeName := "VkPhysicalDeviceProperties2"
  layout := ⟨328, 8⟩
  parts := [
    .ofSlot "s_type" sTypeSlot sType,
    .chain next,
    .ofSlot "properties" propertiesSlot properties]
  read s := return {
    sType := ← sTypeSlot.read s
    next := []
    properties := ← propertiesSlot.read s }

instance : Chain.Item (PhysicalDeviceProperties2 ι) where
  structureType a := Enumeration.value a.sType
  allocate a := storeUnchained a.sType a.next a

def readChain (readers : List (Chain.Reader ι)) (s : Segment) : Access (List ι) := do
  Chain.read readers (← nextSlot.read s)

def readWithChain (readers : List (Chain.Reader ι)) (s : Segment) :
    Access (PhysicalDeviceProperties2 ι) := do
  let a : PhysicalDeviceProperties2 ι ← Structure.read s
  return { a with next := ← readChain readers s }

end PhysicalDeviceProperties2

structure PhysicalDeviceMaintenance3Properties (ι : Type) where
  sType : StructureType
  next : List ι
  maxPerSetDescriptors : UInt32
  maxMemoryAllocationSize : UInt64
  deriving DecidableEq, Repr

namespace PhysicalDeviceMaintenance3Properties

variable {ι : Type}

def maxPerSetDescriptorsSlot : Slot UInt32 := .scalar _ 16

def maxMemoryAllocationSizeSlot : Slot UInt64 := .scalar _ 24

def text (item : ι → String) (a : PhysicalDeviceMaintenance3Properties ι) : String :=
  "PhysicalDeviceMaintenance3Properties \x7b s_type: " ++ Enumerated.name a.sType ++
    ", next: [" ++ ", ".intercalate (a.next.map item) ++
    "], max_per_set_descriptors: " ++ Nat.repr a.maxPerSetDescriptors.toNat ++
    ", max_memory_allocation_size: " ++ Nat.repr a.maxMemoryAllocationSize.toNat ++ " \x7d"

variable [Chain.Item ι]

instance : Record (PhysicalDeviceMaintenance3Properties ι) where
  nativeName := "VkPhysicalDeviceMaintenance3Properties"
  layout := ⟨32, 8⟩
  parts := [
    .ofSlot "s_type" sTypeSlot sType,
    .chain next,
    .ofSlot "max_per_set_descriptors" maxPerSetDescriptorsSlot maxPerSetDescriptors,
    .ofSlot "max_memory_allocation_size" maxMemoryAllocationSizeSlot maxMemoryAllocationSize]
  read s := return {
    sType := ← sTypeSlot.read s
    next := []
    maxPerSetDescriptors := ← maxPerSetDescriptorsSlot.read s
    maxMemoryAllocationSize := ← maxMemoryAllocationSizeSlot.read s }

instance : Chain.Item (PhysicalDeviceMaintenance3Properties ι) where
  structureType a := Enumeration.value a.sType
  allocate a := storeUnchained a.sType a.next a

end PhysicalDeviceMaintenance3Properties

structure PhysicalDeviceGroupProperties (ι : Type) where
  sType : StructureType
  next : List ι
  physicalDeviceCount : UInt32
  physicalDevices : List Address
  subsetAllocation : UInt32
  deriving DecidableEq, Repr

namespace PhysicalDeviceGroupProperties

variable {ι : Type} [Chain.Item ι]

def physicalDeviceCountSlot : Slot UInt32 := .scalar _ 16

def physicalDevicesSlot : Slot (List Address) := .scalars _ 24 256

def subsetAllocationSlot : Slot UInt32 := .scalar _ 280

instance : Record (PhysicalDeviceGroupProperties ι) where
  nativeName := "VkPhysicalDeviceGroupProperties"
  layout := ⟨288, 8⟩
  parts := [
    .ofSlot "s_type" sTypeSlot sType,
    .chain next,
    .ofSlot "physical_device_count" physicalDeviceCountSlot physicalDeviceCount,
    .ofSlot "physical_devices" physicalDevicesSlot physicalDevices,
    .ofSlot "subset_allocation" subsetAllocationSlot subsetAllocation]
  read s := return {
    sType := ← sTypeSlot.read s
    next := []
    physicalDeviceCount := ← physicalDeviceCountSlot.read s
    physicalDevices := ← physicalDevicesSlot.read s
    subsetAllocation := ← subsetAllocationSlot.read s }

instance : Chain.Item (PhysicalDeviceGroupProperties ι) where
  structureType a := Enumeration.value a.sType
  allocate a := storeUnchained a.sType a.next a

end PhysicalDeviceGroupProperties
end Bindwright.Vulkan
