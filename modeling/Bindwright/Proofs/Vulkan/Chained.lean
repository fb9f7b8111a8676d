import Bindwright.Proofs.Chain.Part
import Bindwright.Proofs.Vulkan.Plain
import Bindwright.Vulkan.Chained

namespace Bindwright.Vulkan

open Memory Slot Chain

theorem StructureType.mem_all (a : StructureType) : a ∈ Enumerated.all := by cases a <;> decide

theorem sTypeSlot_lawful : sTypeSlot.Lawful 0 4 (fun _ => none) [] :=
  enumerator_lawful 0 StructureType.mem_all (by decide)

class Chained (σ : Type) (ι : outParam Type) [Item ι] [Record σ] [Fitting σ] where
  sType : σ → StructureType
  next : σ → List ι
  alone : σ → σ
  alone_of_next {v : σ} : next v = [] → alone v = v
  body : List (Memory.Part σ)
  parts_eq : Record.parts = .ofSlot "s_type" sTypeSlot sType :: .chain next :: body
  places : List Window
  Held : σ → Segment → Contents → Prop
  laws : LawfulParts body places Fitting.fault (Fitting.texts σ) Held
  order : Window.InOrder header.size places (Record.layout σ).size
  next_of_read {s : Segment} {m : Contents} {v : σ} : Structure.read s m = .ok v → next v = []
  read_eq_ok_iff {s : Segment} {m : Contents} {v : σ} :
    Structure.read s m = .ok (alone v) ↔ sTypeSlot.read s m = .ok (sType v) ∧ Held v s m

namespace Chained

variable {σ ι : Type} [Item ι] [Record σ] [Fitting σ] [chained : Chained σ ι] {v : σ} {s : Segment}

theorem write_eq (v : σ) (s : Segment) :
    Structure.write v s = (do
      sTypeSlot.write (sType v) s
      (Memory.Part.chain next : Memory.Part σ).write v s
      chained.body.forM fun part => part.write v s) := by
  change (Record.parts : List (Memory.Part σ)).forM _ = _
  rw [parts_eq]
  rfl

theorem stores_alone (room : (Record.layout σ).size ≤ s.length) (none_ : next v = []) :
    Stores (Structure.write v s) s.start (s.start + (Record.layout σ).size) (Fitting.fault v)
      ((Fitting.texts σ).map s.at) fun m => Structure.read s m = .ok v := by
  have head : header.size ≤ s.length := chained.order.le.trans room
  have type := sTypeSlot_lawful.stores s (Nat.le_trans (by decide) head) (sType v)
  have chain := Memory.Part.chain_stores head none_
  have rest := laws.stores order s room v
  rw [write_eq]
  refine ((type.seq (chain.seq rest (Nat.le_refl _)) ?_).mono ?_ (Nat.le_refl _)).congr fun m => ?_
  · exact Nat.add_le_add_left (by decide) s.start
  · exact Nat.le_add_right _ _
  · rw [← alone_of_next none_, read_eq_ok_iff, alone_of_next none_]
    simp only [true_and]

variable (σ) in
include chained in
theorem header_le : header.size ≤ (Record.layout σ).size := chained.order.le

theorem write_sType (v : σ) (room : header.size ≤ s.length) (before : Arena) :
    ∃ m, sTypeSlot.write (sType v) s before = (.ok (), { before with contents := m }) ∧
      before.contents.AgreeOn (Set.Ico s.start (s.start + 4))ᶜ m ∧
      sTypeSlot.read s m = .ok (sType v) := by
  have stores := sTypeSlot_lawful.stores s (Nat.le_trans (by decide) room) (sType v)
  obtain ⟨m, written, agree, held⟩ := stores.writes before
  exact ⟨m, written, agree, held rfl⟩

theorem write_sType_self {before : Arena} (room : header.size ≤ s.length)
    (held : sTypeSlot.read s before.contents = .ok (sType v)) :
    sTypeSlot.write (sType v) s before = (.ok (), before) := by
  have stores := sTypeSlot_lawful.stores s (Nat.le_trans (by decide) room) (sType v)
  have rewritten := stores.rewrites before held
  generalize sTypeSlot.write (sType v) s before = result at rewritten
  cases rewritten with
  | kept _ =>
    rw [List.map_nil, Contents.trimmed_nil]
  | overfull split _ _ => exact absurd split.symm (List.append_ne_nil_of_right_ne_nil _ nofun)

theorem write_refused {before typed after : Arena} {fault : Fault} (room : header.size ≤ s.length)
    (typing : sTypeSlot.write (sType v) s before = (.ok (), typed))
    (failed : (next v).mapM Item.allocate typed = (.error fault, after)) :
    Structure.write v s before = (.error fault, after) := by
  rw [write_eq, Action.bind_ok typing]
  exact Action.bind_error (Memory.Part.chain_write_error room failed) _

theorem write_linked {before typed allocated : Arena} {nodes : List Segment} {old : Address}
    (room : (Record.layout σ).size ≤ s.length)
    (typing : sTypeSlot.write (sType v) s before = (.ok (), typed))
    (held : s.get linkOffset typed.contents = .ok old)
    (made : (next v).mapM Item.allocate typed = (.ok nodes, allocated))
    (large : ∀ node ∈ nodes, header.size ≤ node.length) :
    ∃ m, Structure.write v s before =
        (outcome (Fitting.fault v), { allocated with contents := m }) ∧
      (linked nodes old allocated.contents).AgreeOn
        (Set.Ico (s.start + linkOffset) (s.start + (Record.layout σ).size))ᶜ m ∧
      s.get linkOffset m = .ok (headOf nodes old) ∧ (Fitting.fault v = none → Held v s m) := by
  have head : header.size ≤ s.length := chained.order.le.trans room
  -- The body is written to what the links have left, and lies behind them.
  have chain := Memory.Part.chain_write head held made large
  let tail := linked nodes old allocated.contents
  let link := Scalar.encode (headOf nodes old)
  obtain ⟨m, written, agree, body⟩ := (laws.stores order s room v).writes
    { allocated with contents := tail.write (s.start + linkOffset) link }
  refine ⟨m, ?_, ?_, ?_, body⟩
  · rw [write_eq, Action.bind_ok typing]
    exact (Action.bind_ok chain _).trans written
  · have size := chained.order.le
    have write := tail.agreeOn_write (s.start + linkOffset) link
    have early : Set.Ico (s.start + linkOffset) (s.start + linkOffset + link.length) ⊆
        Set.Ico (s.start + linkOffset) (s.start + (Record.layout σ).size) :=
      Set.Ico_subset_Ico_right (Nat.add_assoc _ _ _ ▸ Nat.add_le_add_left size _)
    have late : Set.Ico (s.start + header.size) (s.start + (Record.layout σ).size) ⊆
        Set.Ico (s.start + linkOffset) (s.start + (Record.layout σ).size) :=
      Set.Ico_subset_Ico_left (Nat.add_le_add_left (by decide) _)
    exact (write.mono (Set.compl_subset_compl.2 early)).trans
      (agree.mono (Set.compl_subset_compl.2 late))
  · have back := tail.read_write_self (s.start + linkOffset) link
    have before : Set.Ico (s.start + linkOffset) (s.start + linkOffset + Scalar.width Address) ⊆
        (Set.Ico (s.start + header.size) (s.start + (Record.layout σ).size))ᶜ := by
      intro x inside late
      exact absurd (inside.2.trans_le late.1) (Nat.lt_irrefl x)
    have get : s.get linkOffset m = .ok (Scalar.decode _ : Address) := Segment.get_apply s m head
    rw [get, (agree.mono before).read_congr]
    exact congrArg _ ((congrArg Scalar.decode back).trans (Scalar.decode_encode _))

theorem storeUnchained_of_ne (some : next v ≠ []) (before : Arena) :
    storeUnchained (sType v) (next v) v before =
      (.error (.conversion (.nestedChain (Enumeration.value (sType v)))), before) := by
  unfold storeUnchained
  rw [if_neg fun none_ => some (List.isEmpty_iff.1 none_)]
  rfl

theorem storeUnchained_of_eq (none_ : next v = []) :
    storeUnchained (sType v) (next v) v = Structure.store v :=
  if_pos (List.isEmpty_iff.2 none_)

theorem store_alone {before fresh : Arena} {raw : Segment} (none_ : next v = [])
    (allocated : allocate (Record.layout σ) before = (.ok raw, fresh)) :
    ∃ m, Structure.store v before =
        ((outcome (Fitting.fault v)).map fun _ => raw, { fresh with contents := m }) ∧
      before.Extends { fresh with contents := m } ∧
      (Fitting.fault v = none → Structure.read raw m = .ok v) := by
  have whole := (allocate_eq_ok allocated).1
  have stores := stores_alone (Nat.le_of_eq whole.symm) none_
  rw [← whole] at stores
  exact Structure.store_of_stores stores allocated

structure Stored (v : σ) (before : Arena) (node : Segment) (after : Arena) : Prop where
  next_eq : next v = []
  length_eq : node.length = (Record.layout σ).size
  adds : before.Adds node after
  read_eq : Structure.read node after.contents = .ok v

theorem storeUnchained_spec {before after : Arena} {result : Except Fault Segment}
    (run : storeUnchained (sType v) (next v) v before = (result, after)) :
    before.Extends after ∧ ∀ node, result = .ok node → Stored v before node after := by
  by_cases none_ : next v = []
  · rw [storeUnchained_of_eq none_] at run
    obtain ⟨e, failed, rfl⟩ | ⟨raw, fresh, allocated, -⟩ := Action.bind_cases run
    · rw [allocate_eq_error failed]
      exact ⟨.refl before, nofun⟩
    · obtain ⟨whole, -, adds, -⟩ := allocate_eq_ok allocated
      obtain ⟨m, stored, ext, held⟩ := store_alone none_ allocated
      cases run.symm.trans stored
      refine ⟨ext, fun node made => ?_⟩
      cases fault : Fitting.fault v with
      | some e =>
        rw [fault] at made
        cases made
      | none =>
        rw [fault] at made
        cases made
        exact ⟨none_, whole, ⟨adds.above, adds.below, adds.bound⟩, held fault⟩
  · rw [storeUnchained_of_ne none_] at run
    cases run
    exact ⟨.refl _, nofun⟩

theorem lawfulItem [Item σ]
    (allocate_eq : ∀ v : σ, Item.allocate v = storeUnchained (sType v) (next v) v) :
    LawfulItem σ where
  extends_allocate {v before after result} run := by
    rw [allocate_eq] at run
    exact (storeUnchained_spec run).1
  adds_allocate {v before after node} run := by
    rw [allocate_eq] at run
    have stored := (storeUnchained_spec run).2 node rfl
    exact ⟨stored.adds, stored.length_eq ▸ chained.order.le⟩

end Chained

variable {ι : Type} [Item ι]

namespace PhysicalDeviceProperties2

instance : Fitting (PhysicalDeviceProperties2 ι) :=
  ⟨fun v => Fitting.fault v.properties, [⟨28, 256⟩]⟩

instance : Chained (PhysicalDeviceProperties2 ι) ι where
  sType := sType
  next := next
  alone v := { v with next := [] }
  alone_of_next none_ := by rw [← none_]
  body := [.ofSlot "properties" propertiesSlot properties]
  parts_eq := rfl
  places := [⟨16, 312⟩]
  Held := _
  laws := .congr (.part (nested_lawful PhysicalDeviceProperties.lawful.fills 16 312 rfl) .nil)
    (fun v => Option.or_none) rfl
  order := show Window.InOrder 16 _ 328 by decide
  next_of_read {s m v} read := by
    simp only [Structure.read, Record.read, Access.bind_eq_ok_iff, Access.pure_eq_ok_iff] at read
    obtain ⟨_, _, _, _, rfl⟩ := read
    rfl
  read_eq_ok_iff {s m v} := by simp [Structure.read, Record.read, propertiesSlot]

instance : LawfulItem (PhysicalDeviceProperties2 ι) := Chained.lawfulItem fun _ => rfl

end PhysicalDeviceProperties2

namespace PhysicalDeviceMaintenance3Properties

instance : Fitting (PhysicalDeviceMaintenance3Properties ι) := ⟨fun _ => none, []⟩

instance : Chained (PhysicalDeviceMaintenance3Properties ι) ι where
  sType := sType
  next := next
  alone v := { v with next := [] }
  alone_of_next none_ := by rw [← none_]
  body := [.ofSlot "max_per_set_descriptors" maxPerSetDescriptorsSlot maxPerSetDescriptors,
    .ofSlot "max_memory_allocation_size" maxMemoryAllocationSizeSlot maxMemoryAllocationSize]
  parts_eq := rfl
  places := [⟨16, 4⟩, ⟨24, 8⟩]
  Held := _
  laws := .part (scalar_lawful 16) <| .part (scalar_lawful 24) .nil
  order := show Window.InOrder 16 _ 32 by decide
  next_of_read {s m v} read := by
    simp only [Structure.read, Record.read, Access.bind_eq_ok_iff, Access.pure_eq_ok_iff] at read
    obtain ⟨_, _, _, _, _, _, rfl⟩ := read
    rfl
  read_eq_ok_iff {s m v} := by
    simp [Structure.read, Record.read, maxPerSetDescriptorsSlot, maxMemoryAllocationSizeSlot]

instance : LawfulItem (PhysicalDeviceMaintenance3Properties ι) := Chained.lawfulItem fun _ => rfl

end PhysicalDeviceMaintenance3Properties

namespace PhysicalDeviceGroupProperties

instance : Fitting (PhysicalDeviceGroupProperties ι) :=
  ⟨fun v => countFault 32 v.physicalDevices, []⟩

instance : Chained (PhysicalDeviceGroupProperties ι) ι where
  sType := sType
  next := next
  alone v := { v with next := [] }
  alone_of_next none_ := by rw [← none_]
  body := [.ofSlot "physical_device_count" physicalDeviceCountSlot physicalDeviceCount,
    .ofSlot "physical_devices" physicalDevicesSlot physicalDevices,
    .ofSlot "subset_allocation" subsetAllocationSlot subsetAllocation]
  parts_eq := rfl
  places := [⟨16, 4⟩, ⟨24, 256⟩, ⟨280, 4⟩]
  Held := _
  laws := .congr (.part (scalar_lawful 16) <| .part (scalars_lawful 24 256) <|
    .part (scalar_lawful 280) .nil) (fun v => Option.or_none) rfl
  order := show Window.InOrder 16 _ 288 by decide
  next_of_read {s m v} read := by
    simp only [Structure.read, Record.read, Access.bind_eq_ok_iff, Access.pure_eq_ok_iff] at read
    obtain ⟨_, _, _, _, _, _, _, _, rfl⟩ := read
    rfl
  read_eq_ok_iff {s m v} := by
    simp [Structure.read, Record.read, physicalDeviceCountSlot, physicalDevicesSlot,
      subsetAllocationSlot]

instance : LawfulItem (PhysicalDeviceGroupProperties ι) := Chained.lawfulItem fun _ => rfl

end PhysicalDeviceGroupProperties
end Bindwright.Vulkan
