import Bindwright.Proofs.Vulkan.Chained

namespace Bindwright.Vulkan

open Memory Slot Chain

/-- What is read from raw memory is written back without a change but for the bytes after texts. It
is refused if a buffer has no zero byte, for the first such buffer. -/
def Rewrites (σ : Type) [Record σ] [Fitting σ] : Prop :=
  ∀ (s : Segment) (before : Arena) (v : σ), (Structure.layout σ).size ≤ s.length →
    Structure.read s before.contents = .ok v →
      let buffers := (Fitting.texts σ).map s.at
      match buffers.find? fun b => ¬ before.contents.Terminated b with
      | none => Structure.write v s before =
          (.ok (), { before with contents := before.contents.trimmed buffers })
      | some b => (Structure.write v s before).1 =
          .error (.conversion (.textTooLong b.length (b.length - 1)))

theorem Rewrites.of_stores {σ : Type} [Record σ] [Fitting σ]
    (rewritten : ∀ (s : Segment) (before : Arena) (v : σ), (Record.layout σ).size ≤ s.length →
      Structure.read s before.contents = .ok v →
        Rewritten ((Fitting.texts σ).map s.at) before (Structure.write v s before)) :
    Rewrites σ := by
  intro s before v room read
  have result := rewritten s before v room read
  generalize Structure.write v s before = after at result
  cases result with
  | kept ended =>
    have none_ : ((Fitting.texts σ).map s.at).find? (fun b => ¬ before.contents.Terminated b) =
        none := List.find?_eq_none.2 fun b member => by simpa using ended b member
    simp only [none_]
  | @overfull earlier later b after split ended unended =>
    have first : ((Fitting.texts σ).map s.at).find? (fun b => ¬ before.contents.Terminated b) =
        some b := by
      refine List.find?_eq_some_iff_append.2 ⟨decide_eq_true unended, earlier, later, split, ?_⟩
      exact fun b' member => by simpa using ended b' member
    simp only [first]

theorem Rewrites.of_lawful {σ : Type} [Record σ] [Fitting σ] (law : Record.Lawful σ) :
    Rewrites σ := by
  refine .of_stores fun s before v room read => ?_
  exact (law.stores s (Nat.zero_add _ ▸ room) v).rewrites before read

theorem Chained.rewrites {σ ι : Type} [Item ι] [Record σ] [Fitting σ] [Chained σ ι] :
    Rewrites σ := by
  refine .of_stores fun s before v room read => ?_
  exact (stores_alone room (next_of_read read)).rewrites before read

/-- Of every structure, with a chain or without. -/
theorem rewriting_only_trims_texts (ι : Type) [Item ι] :
    Rewrites Extent2d ∧ Rewrites Extent3d ∧ Rewrites Offset2d ∧ Rewrites Rect2d ∧
      Rewrites QueueFamilyProperties ∧ Rewrites ExtensionProperties ∧
      Rewrites PhysicalDeviceLimits ∧ Rewrites PhysicalDeviceProperties ∧
      Rewrites (PhysicalDeviceProperties2 ι) ∧
      Rewrites (PhysicalDeviceMaintenance3Properties ι) ∧
      Rewrites (PhysicalDeviceGroupProperties ι) ∧ Rewrites MemoryType ∧
      Rewrites PhysicalDeviceMemoryProperties ∧ Rewrites AttachmentDescription ∧
      Rewrites AllocationCallbacks :=
  ⟨.of_lawful Extent2d.lawful, .of_lawful Extent3d.lawful, .of_lawful Offset2d.lawful,
    .of_lawful Rect2d.lawful, .of_lawful QueueFamilyProperties.lawful,
    .of_lawful ExtensionProperties.lawful, .of_lawful PhysicalDeviceLimits.lawful,
    .of_lawful PhysicalDeviceProperties.lawful, Chained.rewrites, Chained.rewrites,
    Chained.rewrites, .of_lawful MemoryType.lawful,
    .of_lawful PhysicalDeviceMemoryProperties.lawful, .of_lawful AttachmentDescription.lawful,
    .of_lawful AllocationCallbacks.lawful⟩

def untidy : Arena := { Arena.empty with contents := Contents.zero.write 4096 [65, 0, 90] }

theorem rewriting_only_trims_texts_untidy :
    Structure.write (⟨"A", 0⟩ : ExtensionProperties) ⟨4096, 260⟩ untidy =
      (.ok (), { untidy with contents := untidy.contents.trimmed [⟨4096, 256⟩] }) ∧
    untidy.contents.byte 4098 = 90 ∧
    (untidy.contents.trimmed [⟨4096, 256⟩]).byte 4098 = 0 := by
  obtain ⟨-, -, -, -, -, rewrites, -⟩ := rewriting_only_trims_texts Chain.Node
  have write := rewrites ⟨4096, 260⟩ untidy ⟨"A", 0⟩ (by decide) (by decide)
  have place : (Fitting.texts ExtensionProperties).map (Segment.at ⟨4096, 260⟩) =
      [⟨4096, 256⟩] := rfl
  have ended : ([⟨4096, 256⟩] : List Segment).find?
      (fun b => ¬ untidy.contents.Terminated b) = none := by decide
  simp only [place, ended] at write
  exact ⟨write, by decide, by decide⟩

end Bindwright.Vulkan
