import Bindwright.Memory.Enumeration

namespace Bindwright.Vulkan

open Memory

inductive QueueFlag where
  | graphics | compute | transfer | sparseBinding
  deriving DecidableEq, Repr

instance : BitFlag QueueFlag where
  typeName := "QueueFlag"
  nativeName := "VkQueueFlags"
  all := [.graphics, .compute, .transfer, .sparseBinding]
  name
    | .graphics => "Graphics"
    | .compute => "Compute"
    | .transfer => "Transfer"
    | .sparseBinding => "SparseBinding"
  bit
    | .graphics => 1
    | .compute => 2
    | .transfer => 4
    | .sparseBinding => 8

inductive SampleCountFlag where
  | one | four | sixtyFour
  deriving DecidableEq, Repr

instance : BitFlag SampleCountFlag where
  typeName := "SampleCountFlag"
  nativeName := "VkSampleCountFlags"
  all := [.one, .four, .sixtyFour]
  name
    | .one => "One"
    | .four => "Four"
    | .sixtyFour => "SixtyFour"
  bit
    | .one => 1
    | .four => 4
    | .sixtyFour => 64

inductive MemoryPropertyFlag where
  | deviceLocal | hostVisible | hostCoherent
  deriving DecidableEq, Repr

instance : BitFlag MemoryPropertyFlag where
  typeName := "MemoryPropertyFlag"
  nativeName := "VkMemoryPropertyFlags"
  all := [.deviceLocal, .hostVisible, .hostCoherent]
  name
    | .deviceLocal => "DeviceLocal"
    | .hostVisible => "HostVisible"
    | .hostCoherent => "HostCoherent"
  bit
    | .deviceLocal => 1
    | .hostVisible => 2
    | .hostCoherent => 4

inductive PhysicalDeviceType where
  | other | integratedGpu | discreteGpu | cpu
  deriving DecidableEq, Repr

instance : Enumeration PhysicalDeviceType where
  typeName := "PhysicalDeviceType"
  nativeName := "VkPhysicalDeviceType"
  all := [.other, .integratedGpu, .discreteGpu, .cpu]
  name
    | .other => "Other"
    | .integratedGpu => "IntegratedGpu"
    | .discreteGpu => "DiscreteGpu"
    | .cpu => "Cpu"
  value
    | .other => 0
    | .integratedGpu => 1
    | .discreteGpu => 2
    | .cpu => 4

inductive Format where
  | undefined | r8g8b8a8Unorm | b8g8r8a8Srgb
  deriving DecidableEq, Repr

instance : Enumeration Format where
  typeName := "Format"
  nativeName := "VkFormat"
  all := [.undefined, .r8g8b8a8Unorm, .b8g8r8a8Srgb]
  name
    | .undefined => "Undefined"
    | .r8g8b8a8Unorm => "R8g8b8a8Unorm"
    | .b8g8r8a8Srgb => "B8g8r8a8Srgb"
  value
    | .undefined => 0
    | .r8g8b8a8Unorm => 37
    | .b8g8r8a8Srgb => 50

inductive StructureType where
  | physicalDeviceProperties2
  | physicalDeviceGroupProperties
  | physicalDeviceMaintenance3Properties
  deriving DecidableEq, Repr

instance : Enumeration StructureType where
  typeName := "StructureType"
  nativeName := "VkStructureType"
  all := [.physicalDeviceProperties2, .physicalDeviceGroupProperties,
    .physicalDeviceMaintenance3Properties]
  name
    | .physicalDeviceProperties2 => "PhysicalDeviceProperties2"
    | .physicalDeviceGroupProperties => "PhysicalDeviceGroupProperties"
    | .physicalDeviceMaintenance3Properties => "PhysicalDeviceMaintenance3Properties"
  value
    | .physicalDeviceProperties2 => 1000059001
    | .physicalDeviceGroupProperties => 1000070000
    | .physicalDeviceMaintenance3Properties => 1000168000

end Bindwright.Vulkan
