import Bindwright.Memory.Record
import Bindwright.Vulkan.Chained

namespace Bindwright.Vulkan

open Memory

def flagTypes : List ((α : Type) × BitFlag α) :=
  [⟨QueueFlag, inferInstance⟩, ⟨SampleCountFlag, inferInstance⟩,
    ⟨MemoryPropertyFlag, inferInstance⟩]

def enumerations : List NumberTable :=
  [.ofEnumeration PhysicalDeviceType, .ofEnumeration Format, .ofEnumeration StructureType]

def flagTables : List NumberTable := flagTypes.map fun ⟨α, _⟩ => .ofFlags α

def structures : List (String × (List UInt8 → Inspection)) := [
  ("Extent2d", inspectRecord Extent2d),
  ("Extent3d", inspectRecord Extent3d),
  ("Offset2d", inspectRecord Offset2d),
  ("Rect2d", inspectRecord Rect2d),
  ("QueueFamilyProperties", inspectRecord QueueFamilyProperties),
  ("ExtensionProperties", inspectRecord ExtensionProperties),
  ("PhysicalDeviceLimits", inspectRecord PhysicalDeviceLimits),
  ("PhysicalDeviceProperties", inspectRecord PhysicalDeviceProperties),
  ("PhysicalDeviceProperties2", inspectRecord (PhysicalDeviceProperties2 Chain.Node)),
  ("PhysicalDeviceMaintenance3Properties",
    inspectRecord (PhysicalDeviceMaintenance3Properties Chain.Node)),
  ("PhysicalDeviceGroupProperties", inspectRecord (PhysicalDeviceGroupProperties Chain.Node)),
  ("MemoryType", inspectRecord MemoryType),
  ("PhysicalDeviceMemoryProperties", inspectRecord PhysicalDeviceMemoryProperties),
  ("AttachmentDescription", inspectRecord AttachmentDescription),
  ("AllocationCallbacks", inspectRecord AllocationCallbacks),
  ("PipelineCacheUuid", inspect PipelineCacheUuid none)]

end Bindwright.Vulkan
