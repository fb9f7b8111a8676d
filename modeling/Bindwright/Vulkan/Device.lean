import Bindwright.Memory.Record
import Bindwright.Text.Character
import Bindwright.Vulkan.Enumerations
import Bindwright.Vulkan.Geometry

namespace Bindwright.Vulkan

open Memory

structure PipelineCacheUuid where
  bytes : List UInt8
  length_bytes : bytes.length = 16
  deriving DecidableEq, Repr

namespace PipelineCacheUuid

def text (u : PipelineCacheUuid) : String :=
  let digits (start length : Nat) := Text.Hexadecimal.ofBytes ((u.bytes.drop start).take length)
  "-".intercalate [digits 0 4, digits 4 2, digits 6 2, digits 8 2, digits 10 6]

instance : Outlined PipelineCacheUuid := ⟨fun u => .text u.text⟩

def read (s : Segment) : Access PipelineCacheUuid := do
  let bytes ← s.toList UInt8
  if h : bytes.length = 16 then return ⟨bytes, h⟩
  else throw (.conversion (.lengthMismatch 16 bytes.length))

instance : Structure PipelineCacheUuid where
  layout := ⟨16, 1⟩
  read := read
  write u s := s.ofList u.bytes

end PipelineCacheUuid
open Memory

structure QueueFamilyProperties where
  queueFlags : FlagSet QueueFlag
  queueCount : UInt32
  timestampValidBits : UInt32
  minImageTransferGranularity : Extent3d
  deriving DecidableEq, Repr

namespace QueueFamilyProperties

def queueFlagsSlot : Slot (FlagSet QueueFlag) := .flags _ 0

def queueCountSlot : Slot UInt32 := .scalar _ 4

def timestampValidBitsSlot : Slot UInt32 := .scalar _ 8

def minImageTransferGranularitySlot : Slot Extent3d := .nested _ 12 12

instance : Record QueueFamilyProperties where
  nativeName := "VkQueueFamilyProperties"
  layout := ⟨24, 4⟩
  parts := [
    .ofSlot "queue_flags" queueFlagsSlot queueFlags,
    .ofSlot "queue_count" queueCountSlot queueCount,
    .ofSlot "timestamp_valid_bits" timestampValidBitsSlot timestampValidBits,
    .ofSlot "min_image_transfer_granularity" minImageTransferGranularitySlot
      minImageTransferGranularity]
  read s := return {
    queueFlags := ← queueFlagsSlot.read s
    queueCount := ← queueCountSlot.read s
    timestampValidBits := ← timestampValidBitsSlot.read s
    minImageTransferGranularity := ← minImageTransferGranularitySlot.read s }

end QueueFamilyProperties

structure ExtensionProperties where
  extensionName : String
  specVersion : UInt32
  deriving DecidableEq, Repr

namespace ExtensionProperties

def extensionNameSlot : Slot String := .text 0 256

def specVersionSlot : Slot UInt32 := .scalar _ 256

instance : Record ExtensionProperties where
  nativeName := "VkExtensionProperties"
  layout := ⟨260, 4⟩
  parts := [
    .ofSlot "extension_name" extensionNameSlot extensionName,
    .ofSlot "spec_version" specVersionSlot specVersion]
  read s := return {
    extensionName := ← extensionNameSlot.read s
    specVersion := ← specVersionSlot.read s }

end ExtensionProperties

structure PhysicalDeviceLimits where
  maxImageArrayLayers : UInt32
  maxComputeWorkGroupCount : List UInt32
  pointSizeRange : List Single
  framebufferColorSampleCounts : FlagSet SampleCountFlag
  deriving DecidableEq, Repr

namespace PhysicalDeviceLimits

def maxImageArrayLayersSlot : Slot UInt32 := .scalar _ 0

def maxComputeWorkGroupCountSlot : Slot (List UInt32) := .scalars _ 4 12

def pointSizeRangeSlot : Slot (List Single) := .scalars _ 16 8

def framebufferColorSampleCountsSlot : Slot (FlagSet SampleCountFlag) := .flags _ 24

instance : Record PhysicalDeviceLimits where
  nativeName := "VkPhysicalDeviceLimits"
  layout := ⟨28, 4⟩
  parts := [
    .ofSlot "max_image_array_layers" maxImageArrayLayersSlot maxImageArrayLayers,
    .ofSlot "max_compute_work_group_count" maxComputeWorkGroupCountSlot maxComputeWorkGroupCount,
    .ofSlot "point_size_range" pointSizeRangeSlot pointSizeRange,
    .ofSlot "framebuffer_color_sample_counts" framebufferColorSampleCountsSlot
      framebufferColorSampleCounts]
  read s := return {
    maxImageArrayLayers := ← maxImageArrayLayersSlot.read s
    maxComputeWorkGroupCount := ← maxComputeWorkGroupCountSlot.read s
    pointSizeRange := ← pointSizeRangeSlot.read s
    framebufferColorSampleCounts := ← framebufferColorSampleCountsSlot.read s }

end PhysicalDeviceLimits

structure PhysicalDeviceProperties where
  apiVersion : UInt32
  driverVersion : UInt32
  deviceType : PhysicalDeviceType
  deviceName : String
  pipelineCacheUuid : PipelineCacheUuid
  limits : PhysicalDeviceLimits
  deriving DecidableEq, Repr

namespace PhysicalDeviceProperties

def apiVersionSlot : Slot UInt32 := .scalar _ 0

def driverVersionSlot : Slot UInt32 := .scalar _ 4

def deviceTypeSlot : Slot PhysicalDeviceType := .enumerator _ 8

def deviceNameSlot : Slot String := .text 12 256

def pipelineCacheUuidSlot : Slot PipelineCacheUuid := .nested _ 268 16

def limitsSlot : Slot PhysicalDeviceLimits := .nested _ 284 28

instance : Record PhysicalDeviceProperties where
  nativeName := "VkPhysicalDeviceProperties"
  layout := ⟨312, 4⟩
  parts := [
    .ofSlot "api_version" apiVersionSlot apiVersion,
    .ofSlot "driver_version" driverVersionSlot driverVersion,
    .ofSlot "device_type" deviceTypeSlot deviceType,
    .ofSlot "device_name" deviceNameSlot deviceName,
    .ofSlot "pipeline_cache_uuid" pipelineCacheUuidSlot pipelineCacheUuid,
    .ofSlot "limits" limitsSlot limits]
  read s := return {
    apiVersion := ← apiVersionSlot.read s
    driverVersion := ← driverVersionSlot.read s
    deviceType := ← deviceTypeSlot.read s
    deviceName := ← deviceNameSlot.read s
    pipelineCacheUuid := ← pipelineCacheUuidSlot.read s
    limits := ← limitsSlot.read s }

end PhysicalDeviceProperties

structure MemoryType where
  propertyFlags : FlagSet MemoryPropertyFlag
  heapIndex : UInt32
  deriving DecidableEq, Repr

namespace MemoryType

def propertyFlagsSlot : Slot (FlagSet MemoryPropertyFlag) := .flags _ 0

def heapIndexSlot : Slot UInt32 := .scalar _ 4

instance : Record MemoryType where
  nativeName := "VkMemoryType"
  layout := ⟨8, 4⟩
  parts := [
    .ofSlot "property_flags" propertyFlagsSlot propertyFlags,
    .ofSlot "heap_index" heapIndexSlot heapIndex]
  read s := return {
    propertyFlags := ← propertyFlagsSlot.read s
    heapIndex := ← heapIndexSlot.read s }

end MemoryType

structure PhysicalDeviceMemoryProperties where
  memoryTypeCount : UInt32
  memoryTypes : List MemoryType
  deriving DecidableEq, Repr

namespace PhysicalDeviceMemoryProperties

def memoryTypeCountSlot : Slot UInt32 := .scalar _ 0

def memoryTypesSlot : Slot (List MemoryType) := .structures _ 4 256

instance : Record PhysicalDeviceMemoryProperties where
  nativeName := "VkPhysicalDeviceMemoryProperties"
  layout := ⟨260, 4⟩
  parts := [
    .ofSlot "memory_type_count" memoryTypeCountSlot memoryTypeCount,
    .ofSlot "memory_types" memoryTypesSlot memoryTypes]
  read s := return {
    memoryTypeCount := ← memoryTypeCountSlot.read s
    memoryTypes := ← memoryTypesSlot.read s }

end PhysicalDeviceMemoryProperties

structure AttachmentDescription where
  format : Format
  samples : SampleCountFlag
  deriving DecidableEq, Repr

namespace AttachmentDescription

def formatSlot : Slot Format := .enumerator _ 0

def samplesSlot : Slot SampleCountFlag := .oneFlag _ 4

instance : Record AttachmentDescription where
  nativeName := "VkAttachmentDescription"
  layout := ⟨8, 4⟩
  parts := [.ofSlot "format" formatSlot format, .ofSlot "samples" samplesSlot samples]
  read s := return ⟨← formatSlot.read s, ← samplesSlot.read s⟩

end AttachmentDescription

structure AllocationCallbacks where
  userData : Address
  allocation : Address
  free : Address
  deriving DecidableEq, Repr

namespace AllocationCallbacks

def userDataSlot : Slot Address := .scalar _ 0

def allocationSlot : Slot Address := .scalar _ 8

def freeSlot : Slot Address := .scalar _ 16

instance : Record AllocationCallbacks where
  nativeName := "VkAllocationCallbacks"
  layout := ⟨24, 8⟩
  parts := [
    .ofSlot "p_user_data" userDataSlot userData,
    .ofSlot "pfn_allocation" allocationSlot allocation,
    .ofSlot "pfn_free" freeSlot free]
  read s := return {
    userData := ← userDataSlot.read s
    allocation := ← allocationSlot.read s
    free := ← freeSlot.read s }

def missing (s : Segment) : Access (List Bool) :=
  return [(← allocationSlot.read s).isNull, (← freeSlot.read s).isNull]

end AllocationCallbacks

end Bindwright.Vulkan
