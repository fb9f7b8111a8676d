import Bindwright.Proofs.Memory.Elements
import Bindwright.Proofs.Memory.Record
import Bindwright.Proofs.Memory.Text
import Bindwright.Vulkan.Device

namespace Bindwright.Vulkan

open Memory Slot

instance : Fitting Extent2d := ⟨fun _ => none, []⟩

instance : Fitting Extent3d := ⟨fun _ => none, []⟩

instance : Fitting Offset2d := ⟨fun _ => none, []⟩

instance : Fitting Rect2d := ⟨fun _ => none, []⟩

instance : Fitting QueueFamilyProperties := ⟨fun _ => none, []⟩

instance : Fitting ExtensionProperties := ⟨fun v => textFault 256 v.extensionName, [⟨0, 256⟩]⟩

instance : Fitting PhysicalDeviceLimits :=
  ⟨fun v => (countFault 3 v.maxComputeWorkGroupCount).or (countFault 2 v.pointSizeRange), []⟩

instance : Fitting PhysicalDeviceProperties :=
  ⟨fun v => (textFault 256 v.deviceName).or (Fitting.fault v.limits), [⟨12, 256⟩]⟩

instance : Fitting MemoryType := ⟨fun _ => none, []⟩

instance : Fitting PhysicalDeviceMemoryProperties :=
  ⟨fun v => (countFault 32 v.memoryTypes).or (v.memoryTypes.findSome? Fitting.fault), []⟩

instance : Fitting AttachmentDescription := ⟨fun _ => none, []⟩

instance : Fitting AllocationCallbacks := ⟨fun _ => none, []⟩

theorem PhysicalDeviceType.mem_all (a : PhysicalDeviceType) : a ∈ Enumerated.all := by
  cases a <;> decide

theorem Format.mem_all (a : Format) : a ∈ Enumerated.all := by cases a <;> decide

theorem SampleCountFlag.mem_all (a : SampleCountFlag) : a ∈ Enumerated.all := by
  cases a <;> decide

theorem Extent2d.lawful : Record.Lawful Extent2d := by
  refine LawfulParts.record
    (.part (scalar_lawful 0) <| .part (scalar_lawful 4) .nil) (by decide) ?_
  rintro s m ⟨⟩
  simp [Structure.read, Record.read, widthSlot, heightSlot]

theorem Extent3d.lawful : Record.Lawful Extent3d := by
  refine LawfulParts.record
    (.part (scalar_lawful 0) <| .part (scalar_lawful 4) <| .part (scalar_lawful 8) .nil)
    (by decide) ?_
  rintro s m ⟨⟩
  simp [Structure.read, Record.read, widthSlot, heightSlot, depthSlot]

theorem Offset2d.lawful : Record.Lawful Offset2d := by
  refine LawfulParts.record
    (.part (scalar_lawful 0) <| .part (scalar_lawful 4) .nil) (by decide) ?_
  rintro s m ⟨⟩
  simp [Structure.read, Record.read, xSlot, ySlot]

theorem Rect2d.lawful : Record.Lawful Rect2d := by
  refine LawfulParts.record
    (.part (nested_lawful Offset2d.lawful.fills 0 8 rfl) <|
      .part (nested_lawful Extent2d.lawful.fills 8 8 rfl) .nil) (by decide) ?_
  rintro s m ⟨⟩
  simp [Structure.read, Record.read, offsetSlot, extentSlot]

theorem QueueFamilyProperties.lawful : Record.Lawful QueueFamilyProperties := by
  refine LawfulParts.record
    (.part (flags_lawful 0) <| .part (scalar_lawful 4) <| .part (scalar_lawful 8) <|
      .part (nested_lawful Extent3d.lawful.fills 12 12 rfl) .nil) (by decide) ?_
  rintro s m ⟨⟩
  simp [Structure.read, Record.read, queueFlagsSlot, queueCountSlot, timestampValidBitsSlot,
    minImageTransferGranularitySlot]

theorem ExtensionProperties.lawful : Record.Lawful ExtensionProperties := by
  refine LawfulParts.record
    (.congr (.part (text_lawful 0 256) <| .part (scalar_lawful 256) .nil)
      (fun v => Option.or_none) rfl) (by decide) ?_
  rintro s m ⟨⟩
  simp [Structure.read, Record.read, extensionNameSlot, specVersionSlot]

theorem PhysicalDeviceLimits.lawful : Record.Lawful PhysicalDeviceLimits := by
  refine LawfulParts.record
    (.congr (.part (scalar_lawful 0) <| .part (scalars_lawful 4 12) <|
      .part (scalars_lawful 16 8) <| .part (flags_lawful 24) .nil)
      (fun v => congrArg (countFault 3 v.maxComputeWorkGroupCount).or Option.or_none) rfl)
    (by decide) ?_
  rintro s m ⟨⟩
  simp [Structure.read, Record.read, maxImageArrayLayersSlot, maxComputeWorkGroupCountSlot,
    pointSizeRangeSlot, framebufferColorSampleCountsSlot]

theorem PipelineCacheUuid.read_eq_ok_iff {s : Segment} {m : Contents} {u : PipelineCacheUuid} :
    read s m = .ok u ↔ s.toList UInt8 m = .ok u.bytes := by
  rw [read, Access.bind_eq_ok_iff]
  constructor
  · rintro ⟨bytes, held, made⟩
    split at made
    · rw [held, ← Access.pure_eq_ok_iff.1 made]
    · cases made
  · intro held
    refine ⟨u.bytes, held, ?_⟩
    rw [dif_pos u.length_bytes]
    rfl

theorem PipelineCacheUuid.fills :
    Fills (⟨Structure.read, Structure.write⟩ : Slot PipelineCacheUuid) 16 (fun _ => none) [] := by
  have bytes := array_fills (scalar_lawful (α := UInt8) 0).fills 16
  refine ⟨nofun, fun s whole u => ?_⟩
  have stores := bytes.stores s whole u.bytes
  have fits : (countFault (16 / Scalar.width UInt8) u.bytes).or
      (u.bytes.findSome? fun _ => none) = none := by
    simp [countFault, u.length_bytes, Scalar.width]
  rw [fits] at stores
  exact stores.congr fun m => read_eq_ok_iff

theorem PhysicalDeviceProperties.lawful : Record.Lawful PhysicalDeviceProperties := by
  refine LawfulParts.record
    (.congr (.part (scalar_lawful 0) <| .part (scalar_lawful 4) <|
      .part (enumerator_lawful 8 PhysicalDeviceType.mem_all (by decide)) <|
      .part (text_lawful 12 256) <| .part (nested_lawful PipelineCacheUuid.fills 268 16 rfl) <|
      .part (nested_lawful PhysicalDeviceLimits.lawful.fills 284 28 rfl) .nil)
      (fun v => congrArg (textFault 256 v.deviceName).or Option.or_none) rfl) (by decide) ?_
  rintro s m ⟨⟩
  simp [Structure.read, Record.read, apiVersionSlot, driverVersionSlot, deviceTypeSlot,
    deviceNameSlot, pipelineCacheUuidSlot, limitsSlot]

theorem MemoryType.lawful : Record.Lawful MemoryType := by
  refine LawfulParts.record
    (.part (flags_lawful 0) <| .part (scalar_lawful 4) .nil) (by decide) ?_
  rintro s m ⟨⟩
  simp [Structure.read, Record.read, propertyFlagsSlot, heapIndexSlot]

theorem PhysicalDeviceMemoryProperties.lawful : Record.Lawful PhysicalDeviceMemoryProperties := by
  refine LawfulParts.record
    (.congr (.part (scalar_lawful 0) <|
      .part (structures_lawful MemoryType.lawful.fills 4 256) .nil)
      (fun v => Option.or_none) rfl) (by decide) ?_
  rintro s m ⟨⟩
  simp [Structure.read, Record.read, memoryTypeCountSlot, memoryTypesSlot]

theorem AttachmentDescription.lawful : Record.Lawful AttachmentDescription := by
  refine LawfulParts.record
    (.part (enumerator_lawful 0 Format.mem_all (by decide)) <|
      .part (oneFlag_lawful 4 SampleCountFlag.mem_all (by decide)) .nil) (by decide) ?_
  rintro s m ⟨⟩
  simp [Structure.read, Record.read, formatSlot, samplesSlot]

theorem AllocationCallbacks.lawful : Record.Lawful AllocationCallbacks := by
  refine LawfulParts.record
    (.part (scalar_lawful 0) <| .part (scalar_lawful 8) <| .part (scalar_lawful 16) .nil)
    (by decide) ?_
  rintro s m ⟨⟩
  simp [Structure.read, Record.read, userDataSlot, allocationSlot, freeSlot]

end Bindwright.Vulkan
