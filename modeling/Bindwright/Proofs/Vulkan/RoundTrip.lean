import Bindwright.Proofs.Vulkan.Linked

/-!
# Values that are stored and read back

A value that fits its structure is stored, and what is read from the raw structure is the value
without its chain (`stored_values_are_read_back`). Chains of items that have readers are read back
with it.
-/

namespace Bindwright.Vulkan

open Memory Slot Chain

/-- A value is stored in new memory and read back from there, unless it is refused for its fault. -/
def RoundTrips (σ : Type) [Record σ] [Fitting σ] : Prop :=
  ∀ (v : σ) (before fresh : Arena) (raw : Segment),
    allocate (Structure.layout σ) before = (.ok raw, fresh) →
      match Fitting.fault v with
      | some e => (Structure.store v before).1 = .error (.conversion e)
      | none => ∃ after, Structure.store v before = (.ok raw, after) ∧
          Structure.read raw after.contents = .ok v

def refusal (made : Except Fault (List Segment)) (fault : Option ConversionError) : Option Fault :=
  match made with
  | .error e => some e
  | .ok _ => fault.map .conversion

theorem refusal_eq_none_iff {made : Except Fault (List Segment)}
    {fault : Option ConversionError} :
    refusal made fault = none ↔ (∃ nodes, made = .ok nodes) ∧ fault = none := by
  cases made <;> simp [refusal]

def RoundTripsAlone (σ : Type) {ι : Type} [Item ι] [Record σ] [Fitting σ] [Chained σ ι] : Prop :=
  ∀ (v : σ) (before fresh : Arena) (raw : Segment),
    allocate (Structure.layout σ) before = (.ok raw, fresh) →
      ∃ typed, sTypeSlot.write (Chained.sType v) raw fresh = (.ok (), typed) ∧
        match refusal ((Chained.next v).mapM Item.allocate typed).1 (Fitting.fault v) with
        | some e => (Structure.store v before).1 = .error e
        | none => ∃ after, Structure.store v before = (.ok raw, after) ∧
            Structure.read raw after.contents = .ok (Chained.alone v)

theorem RoundTrips.of_lawful {σ : Type} [Record σ] [Fitting σ] (law : Record.Lawful σ) :
    RoundTrips σ := by
  intro v before fresh raw allocated
  have whole : raw.length = (Record.layout σ).size := (allocate_eq_ok allocated).1
  have stores := law.fills.stores raw whole v
  rw [← whole] at stores
  obtain ⟨m, stored, -, held⟩ := Structure.store_of_stores stores allocated
  cases fault : Fitting.fault v with
  | some e =>
    rw [stored, fault]
    rfl
  | none =>
    rw [fault] at stored
    exact ⟨_, stored, held fault⟩

theorem Chained.write_spec {σ ι : Type} [Item ι] [Record σ] [Fitting σ] [chained : Chained σ ι]
    [LawfulItem ι] (v : σ) {s : Segment} {before : Arena} {old : Address}
    (room : (Record.layout σ).size ≤ s.length) (below : s.start + s.length ≤ before.top)
    (held : s.get linkOffset before.contents = .ok old) :
    ∃ typed, sTypeSlot.write (sType v) s before = (.ok (), typed) ∧
      match refusal ((next v).mapM Item.allocate typed).1 (Fitting.fault v) with
      | some e => ∃ after, Structure.write v s before = (.error e, after)
      | none => ∃ nodes allocated m, (next v).mapM Item.allocate typed = (.ok nodes, allocated) ∧
          Structure.write v s before = (.ok (), { allocated with contents := m }) ∧
          Written v s before nodes old allocated.contents m := by
  have head : header.size ≤ s.length := chained.order.le.trans room
  obtain ⟨m, typing, -, -⟩ := write_sType v head before
  refine ⟨_, typing, ?_⟩
  generalize made : (next v).mapM Item.allocate { before with contents := m } = result
  obtain ⟨e | nodes, allocated⟩ := result
  · exact ⟨allocated, write_refused head typing made⟩
  · obtain ⟨m', write, written⟩ := Chained.written room below typing held made
    cases fault : Fitting.fault v with
    | some e =>
      rw [fault] at write
      exact ⟨_, write⟩
    | none =>
      rw [fault] at write
      exact ⟨nodes, allocated, m', rfl, write, written⟩

theorem Chained.roundTripsAlone {σ ι : Type} [Item ι] [Record σ] [Fitting σ]
    [chained : Chained σ ι] [LawfulItem ι] : RoundTripsAlone σ := by
  intro v before fresh raw allocated
  obtain ⟨whole, -, adds, -⟩ := allocate_eq_ok allocated
  have room : (Record.layout σ).size ≤ raw.length := Nat.le_of_eq whole.symm
  have held := Segment.get_apply (α := Address) raw fresh.contents ((header_le σ).trans room)
  obtain ⟨typed, typing, result⟩ := write_spec v room adds.below held
  refine ⟨typed, typing, ?_⟩
  cases refused : refusal ((next v).mapM Item.allocate typed).1 (Fitting.fault v) with
  | some e =>
    rw [refused] at result
    obtain ⟨after, write⟩ := result
    exact congrArg Prod.fst (Structure.store_of_write allocated write)
  | none =>
    rw [refused] at result
    obtain ⟨nodes, last, m, -, write, written⟩ := result
    have fits := (refusal_eq_none_iff.1 refused).2
    exact ⟨_, Structure.store_of_write allocated write, written.read_eq fits⟩

/-! ## Chains -/

namespace Extension

variable {ι : Type} [Item ι]

def Own (item : Extension ι) : Prop :=
  ∃ a, item = maintenance3 a ∧ a.sType = .physicalDeviceMaintenance3Properties ∧ a.next = []

def Reads (readers : List (Reader (Extension ι))) : Prop :=
  readerFor readers (Enumeration.value StructureType.physicalDeviceMaintenance3Properties) =
    some maintenance3Reader

instance [LawfulItem ι] : LawfulItem (Extension ι) where
  extends_allocate {item before after result} run := by
    cases item with
    | maintenance3 a =>
      exact LawfulItem.extends_allocate (ι := PhysicalDeviceMaintenance3Properties ι) run
    | other i => exact LawfulItem.extends_allocate (ι := ι) run
  adds_allocate {item before after node} run := by
    cases item with
    | maintenance3 a =>
      exact LawfulItem.adds_allocate (ι := PhysicalDeviceMaintenance3Properties ι) run
    | other i => exact LawfulItem.adds_allocate (ι := ι) run

theorem visit_own {readers : List (Reader (Extension ι))} (reads : Reads readers)
    {a : PhysicalDeviceMaintenance3Properties ι} {node : Segment} {m : Contents}
    (own : a.sType = .physicalDeviceMaintenance3Properties) (is : IsNode node)
    (whole : node.length = 32) (read : Structure.read node m = .ok a) :
    visit readers node.address m = .ok (some (maintenance3 a)) := by
  have none_ := Chained.next_of_read read
  have alone := Chained.alone_of_next none_
  have type : sTypeSlot.read node m = .ok a.sType := by
    rw [← alone, Chained.read_eq_ok_iff] at read
    exact read.1
  have place : Segment.ofAddress node.address 32 = node := by
    unfold Segment.ofAddress
    rw [is.toNat_address, ← whole]
  have value : maintenance3Reader.read node m = .ok (maintenance3 a) :=
    Access.bind_eq_ok_iff.2 ⟨a, read, rfl⟩
  unfold visit
  rw [typeAt_of_sType is type, own, reads]
  change some <$> maintenance3Reader.read (Segment.ofAddress node.address 32) m = _
  rw [place, value]
  rfl

theorem looksAt_maintenance3 {s : Segment} {m : Contents} {region : Set Nat}
    (looks : LooksAt (Structure.read s : Access (PhysicalDeviceMaintenance3Properties ι)) m
      region) : LooksAt ((maintenance3Reader : Reader (Extension ι)).read s) m region :=
  fun m' agree =>
    congrArg (fun read => read.bind fun a => .ok (maintenance3 a)) (looks m' agree)

theorem mapM_visit_own {readers : List (Reader (Extension ι))} (reads : Reads readers)
    [LawfulItem ι] {items : List (Extension ι)} {nodes : List Segment} {before after : Arena}
    {m : Contents} (own : ∀ item ∈ items, item.Own) (run : Allocations items nodes before after)
    (are : ∀ node ∈ nodes, IsNode node)
    (agree : ∀ node ∈ nodes, after.contents.AgreeOn (node.span \ linkSpan node) m) :
    (nodes.map Segment.address).mapM (fun a => visit readers a m) = .ok (items.map some) := by
  rw [Traversal.mapM_eq_ok_iff, List.forall₂_map_left_iff, List.forall₂_map_right_iff]
  refine List.Forall₂.flip ?_
  have each := run.each
  rw [List.forall₂_iff_zip] at each ⊢
  refine ⟨each.1, fun {item node} here => ?_⟩
  obtain ⟨inItems, inNodes⟩ := List.of_mem_zip here
  obtain ⟨earlier, later, -, allocated, ext⟩ := each.2 here
  obtain ⟨a, rfl, type, -⟩ := own item inItems
  have stored := (Chained.storeUnchained_spec (v := a) allocated).2 node rfl
  have is := are node inNodes
  have kept : later.contents.AgreeOn (node.span \ linkSpan node) after.contents :=
    ext.agree.mono fun x inside => inside.1.2.trans_le stored.adds.below
  refine visit_own reads type is stored.length_eq ?_
  exact Chained.read_congr (Nat.le_of_eq stored.length_eq.symm) (kept.trans (agree node inNodes))
    stored.read_eq

end Extension

namespace PhysicalDeviceProperties2

variable {ι : Type} [Item ι] {readers : List (Reader (Extension ι))}

theorem readWithChain_eq_ok {v : PhysicalDeviceProperties2 (Extension ι)} {s : Segment}
    {m : Contents} {head : Address} {items : List (Extension ι)}
    (read : Structure.read s m = .ok (Chained.alone v)) (link : s.get linkOffset m = .ok head)
    (walk : Chain.read readers head m = .ok items) :
    readWithChain readers s m = .ok { v with next := items } := by
  have chain : readChain readers s m = .ok items := Access.bind_eq_ok_iff.2 ⟨head, link, walk⟩
  exact Access.bind_eq_ok_iff.2 ⟨_, read, Access.bind_eq_ok_iff.2 ⟨items, chain, rfl⟩⟩

theorem read_own [LawfulItem ι] (reads : Extension.Reads readers)
    {v : PhysicalDeviceProperties2 (Extension ι)} {s : Segment} {before typed allocated : Arena}
    {nodes : List Segment} {old : Address} {m : Contents} {rest : List (Extension ι)}
    (own : ∀ item ∈ v.next, item.Own)
    (made : v.next.mapM Item.allocate typed = (.ok nodes, allocated))
    (written : Chained.Written v s before nodes old allocated.contents m)
    (fits : Fitting.fault v = none)
    (stands : Stands readers before.contents old (Set.Iio before.top \ s.span))
    (walk : Chain.read readers old before.contents = .ok rest) :
    readWithChain readers s m = .ok { v with next := v.next ++ rest } := by
  have visits := Extension.mapM_visit_own reads own (allocations_of_mapM made) written.are
    written.agree
  exact readWithChain_eq_ok (written.read_eq fits) written.link_eq
    (written.read_chain visits stands walk)

theorem nextSlot_fresh {layout : Layout} {before fresh : Arena} {raw : Segment}
    (allocated : allocate layout before = (.ok raw, fresh)) (room : header.size ≤ layout.size) :
    nextSlot.read raw fresh.contents = .ok .null := by
  obtain ⟨whole, -, -, zero⟩ := allocate_eq_ok allocated
  have head : linkOffset + Scalar.width Address ≤ raw.length := whole ▸ room
  have get : nextSlot.read raw fresh.contents = .ok (Scalar.decode (fresh.contents.read
      (raw.start + linkOffset) (Scalar.width Address)) : Address) := Segment.get_apply raw _ head
  rw [get, Contents.read_zero fun x above below => zero x ⟨by omega, by omega⟩]
  decide

/-- What is stored is read back from the raw structure, with its chain. -/
def StoresChain (readers : List (Reader (Extension ι))) : Prop :=
  ∀ (v : PhysicalDeviceProperties2 (Extension ι)) (before after : Arena) (raw : Segment),
    (∀ item ∈ v.next, item.Own) → Structure.store v before = (.ok raw, after) →
      readWithChain readers raw after.contents = .ok v

/-- What is written to a structure that has a chain is read back, followed by that chain. The chain
stands in memory that is handed out, and apart from the structure. -/
def PrependsChain (readers : List (Reader (Extension ι))) : Prop :=
  ∀ (v : PhysicalDeviceProperties2 (Extension ι)) (s : Segment) (before : Arena) (old : Address)
    (rest : List (Extension ι)),
    (∀ item ∈ v.next, item.Own) →
    (Structure.layout (PhysicalDeviceProperties2 (Extension ι))).size ≤ s.length →
    s.start + s.length ≤ before.top →
    nextSlot.read s before.contents = .ok old →
    Stands readers before.contents old (Set.Iio before.top \ s.span) →
    Chain.read readers old before.contents = .ok rest →
      ∃ typed, sTypeSlot.write v.sType s before = (.ok (), typed) ∧
        match refusal (v.next.mapM Item.allocate typed).1 (Fitting.fault v) with
        | some e => (Structure.write v s before).1 = .error e
        | none => ∃ after, Structure.write v s before = (.ok (), after) ∧
            readWithChain readers s after.contents = .ok { v with next := v.next ++ rest }

theorem storesChain [LawfulItem ι] (reads : Extension.Reads readers) : StoresChain readers := by
  intro v before after raw own stored
  obtain ⟨e, -, same⟩ | ⟨raw', fresh, allocated, run⟩ := Action.bind_cases stored
  · cases same
  obtain ⟨e, -, same⟩ | ⟨u, last, run, made⟩ := Action.bind_cases run
  · cases same
  cases made
  obtain ⟨whole, -, adds, -⟩ := allocate_eq_ok allocated
  have null := nextSlot_fresh allocated (Chained.header_le _)
  obtain ⟨typed, typing, result⟩ :=
    Chained.write_spec v (Nat.le_of_eq whole.symm) adds.below null
  cases refused : refusal ((Chained.next v).mapM Item.allocate typed).1 (Fitting.fault v) with
  | some e =>
    rw [refused] at result
    obtain ⟨last, failed⟩ := result
    cases run.symm.trans failed
  | none =>
    rw [refused] at result
    obtain ⟨nodes, last, m, made, write, written⟩ := result
    cases run.symm.trans write
    have read := read_own reads own made written (refusal_eq_none_iff.1 refused).2
      (stands_null readers _ rfl _) (follow_null readers _ [] _ rfl)
    rwa [List.append_nil] at read

theorem prependsChain [LawfulItem ι] (reads : Extension.Reads readers) : PrependsChain readers := by
  intro v s before old rest own room below held stands walk
  obtain ⟨typed, typing, result⟩ := Chained.write_spec v room below held
  refine ⟨typed, typing, ?_⟩
  cases refused : refusal (v.next.mapM Item.allocate typed).1 (Fitting.fault v) with
  | some e =>
    rw [show refusal ((Chained.next v).mapM Item.allocate typed).1 _ = _ from refused] at result
    obtain ⟨after, failed⟩ := result
    exact congrArg Prod.fst failed
  | none =>
    rw [show refusal ((Chained.next v).mapM Item.allocate typed).1 _ = _ from refused] at result
    obtain ⟨nodes, allocated, m, made, write, written⟩ := result
    have fits := (refusal_eq_none_iff.1 refused).2
    exact ⟨_, write, read_own reads own made written fits stands walk⟩

end PhysicalDeviceProperties2

/-- Every value is stored in new memory and read back, unless its chain or a member is refused. In
this case the first of them says why. Where readers know the items of a chain, these are read back
too, ahead of the chain that the structure had before. -/
theorem stored_values_are_read_back (ι : Type) [Item ι] [LawfulItem ι] :
    (RoundTrips Extent2d ∧ RoundTrips Extent3d ∧ RoundTrips Offset2d ∧ RoundTrips Rect2d ∧
      RoundTrips QueueFamilyProperties ∧ RoundTrips ExtensionProperties ∧
      RoundTrips PhysicalDeviceLimits ∧ RoundTrips PhysicalDeviceProperties ∧
      RoundTrips MemoryType ∧ RoundTrips PhysicalDeviceMemoryProperties ∧
      RoundTrips AttachmentDescription ∧ RoundTrips AllocationCallbacks) ∧
    (RoundTripsAlone (PhysicalDeviceProperties2 ι) ∧
      RoundTripsAlone (PhysicalDeviceMaintenance3Properties ι) ∧
      RoundTripsAlone (PhysicalDeviceGroupProperties ι)) ∧
    ∀ readers : List (Reader (Extension ι)), Extension.Reads readers →
      PhysicalDeviceProperties2.StoresChain readers ∧
      PhysicalDeviceProperties2.PrependsChain readers :=
  ⟨⟨.of_lawful Extent2d.lawful, .of_lawful Extent3d.lawful, .of_lawful Offset2d.lawful,
      .of_lawful Rect2d.lawful, .of_lawful QueueFamilyProperties.lawful,
      .of_lawful ExtensionProperties.lawful, .of_lawful PhysicalDeviceLimits.lawful,
      .of_lawful PhysicalDeviceProperties.lawful, .of_lawful MemoryType.lawful,
      .of_lawful PhysicalDeviceMemoryProperties.lawful, .of_lawful AttachmentDescription.lawful,
      .of_lawful AllocationCallbacks.lawful⟩,
    ⟨Chained.roundTripsAlone, Chained.roundTripsAlone, Chained.roundTripsAlone⟩,
    fun _ reads => ⟨PhysicalDeviceProperties2.storesChain reads,
      PhysicalDeviceProperties2.prependsChain reads⟩⟩

abbrev Unknown := PhysicalDeviceGroupProperties Chain.Node

theorem length_sevens : (List.replicate 16 (7 : UInt8)).length = 16 := List.length_replicate

def extended : PhysicalDeviceProperties2 (Extension Unknown) where
  sType := .physicalDeviceProperties2
  next := [.maintenance3 ⟨.physicalDeviceMaintenance3Properties, [], 7, 9⟩]
  properties := {
    apiVersion := 1
    driverVersion := 2
    deviceType := .cpu
    deviceName := "GPU"
    pipelineCacheUuid := ⟨List.replicate 16 7, length_sevens⟩
    limits := ⟨1, [1, 2, 3], [⟨0⟩, ⟨0⟩], ⟨1⟩⟩ }

def extendedRaw : Segment := ⟨4096, 328⟩

def extendedStored : Arena := (Structure.store extended .empty).2

def knownReaders : List (Reader (Extension Unknown)) := Extension.readers []

theorem own_of_mem_extended : ∀ item ∈ extended.next, item.Own := by
  intro item member
  exact ⟨_, List.mem_singleton.1 member, rfl, rfl⟩

theorem stands_extended : Stands knownReaders extendedStored.contents ⟨4424⟩
    (Set.Iio extendedStored.top \ extendedRaw.span) := by
  have top : extendedStored.top = 4456 := by decide +kernel
  have inside : Set.Ico 4424 4456 ⊆ Set.Iio extendedStored.top \ extendedRaw.span := by
    rw [top]
    intro x inside
    simp only [extendedRaw, Segment.span, Set.mem_Ico, Set.mem_sdiff, Set.mem_Iio] at inside ⊢
    omega
  rintro a ⟨i, rfl, valid⟩
  cases i with
  | succ i =>
    have null : (station extendedStored.contents ⟨4424⟩ 1).isNull = true := by decide +kernel
    rw [valid 1 (Nat.succ_le_succ (Nat.zero_le i))] at null
    cases null
  | zero =>
    rw [station_zero]
    refine occupies_of_looksAt ?_ fun reader found => ?_
    · exact (Set.Ico_subset_Ico_right (by decide)).trans inside
    · rw [List.mem_singleton.1 (List.mem_of_find?_eq_some found)]
      have read : Structure.read ⟨4424, 32⟩ extendedStored.contents =
          .ok (⟨.physicalDeviceMaintenance3Properties, [], 7, 9⟩ :
            PhysicalDeviceMaintenance3Properties Unknown) := by decide +kernel
      have looks := Chained.looksAt (Nat.le_refl 32) read
      have place : Segment.ofAddress ⟨4424⟩ 32 = ⟨4424, 32⟩ := by decide
      change LooksAt (Extension.maintenance3Reader.read (Segment.ofAddress ⟨4424⟩ 32)) _ _
      rw [place]
      exact Extension.looksAt_maintenance3 (looks.mono (Set.sdiff_subset.trans inside))

theorem stored_values_are_read_back_extended :
    (∃ after, Structure.store extended .empty = (.ok extendedRaw, after) ∧
      PhysicalDeviceProperties2.readWithChain knownReaders extendedRaw after.contents =
        .ok extended) ∧
    ∃ after, Structure.write extended extendedRaw extendedStored = (.ok (), after) ∧
      PhysicalDeviceProperties2.readWithChain knownReaders extendedRaw after.contents =
        .ok { extended with next := extended.next ++ extended.next } := by
  obtain ⟨stores, prepends⟩ := (stored_values_are_read_back Unknown).2.2 knownReaders rfl
  have stored : Structure.store extended .empty = (.ok extendedRaw, extendedStored) :=
    Prod.ext (by decide +kernel) rfl
  refine ⟨⟨_, stored, stores extended .empty _ _ own_of_mem_extended stored⟩, ?_⟩
  obtain ⟨typed, typing, result⟩ := prepends extended extendedRaw extendedStored ⟨4424⟩
    extended.next own_of_mem_extended (Nat.le_refl 328) (by decide +kernel) (by decide +kernel)
    stands_extended (by decide +kernel)
  have typed_eq : typed =
      (sTypeSlot.write .physicalDeviceProperties2 extendedRaw extendedStored).2 :=
    (congrArg Prod.snd typing).symm
  have accepted : refusal (extended.next.mapM Item.allocate typed).1 (Fitting.fault extended) =
      none := by
    rw [typed_eq]
    decide +kernel
  rwa [accepted] at result

end Bindwright.Vulkan
