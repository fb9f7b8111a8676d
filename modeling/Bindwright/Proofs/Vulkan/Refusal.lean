import Bindwright.Proofs.Vulkan.Chained

namespace Bindwright.Memory.Chain

variable {ι : Type} [Item ι]

theorem exists_refused_of_mapM {items : List ι} {before after : Arena} {fault : Fault}
    (failed : items.mapM Item.allocate before = (.error fault, after)) :
    ∃ earlier item later nodes between, items = earlier ++ item :: later ∧
      earlier.mapM Item.allocate before = (.ok nodes, between) ∧
      Item.allocate item between = (.error fault, after) := by
  induction items generalizing before with
  | nil => cases failed
  | cons item items ih =>
    rw [List.mapM_cons] at failed
    obtain ⟨e, first, same⟩ | ⟨node, between, first, rest⟩ := Action.bind_cases failed
    · cases same
      exact ⟨[], item, items, [], before, rfl, rfl, first⟩
    · obtain ⟨e, rest, same⟩ | ⟨nodes, last, -, done⟩ := Action.bind_cases rest
      · cases same
        obtain ⟨earlier, item', later, nodes, between', rfl, made, refused⟩ := ih rest
        refine ⟨item :: earlier, item', later, node :: nodes, between', rfl, ?_, refused⟩
        rw [List.mapM_cons, Action.bind_ok first, Action.bind_ok made]
        rfl
      · cases done

end Bindwright.Memory.Chain

namespace Bindwright.Vulkan

open Memory Slot Chain

def typeBytes (s : Segment) : Set Nat := Set.Ico s.start (s.start + 4)

/-- A write whose chain is refused fails as the first item that is refused. It changes the type of
the structure and no other byte that existed. A chain there is read as before, unless it takes in
the type of the structure and this was another one. -/
def KeepsOldChain (σ : Type) {ι : Type} [Item ι] [Record σ] [Fitting σ] [Chained σ ι] : Prop :=
  ∀ (v : σ) (s : Segment) (before : Arena), header.size ≤ s.length →
    s.start + s.length ≤ before.top →
      ∃ typed, sTypeSlot.write (Chained.sType v) s before = (.ok (), typed) ∧
        ∀ (fault : Fault) (after : Arena),
          (Chained.next v).mapM Item.allocate typed = (.error fault, after) →
            Structure.write v s before = (.error fault, after) ∧
            (∃ earlier item later nodes between, Chained.next v = earlier ++ item :: later ∧
              earlier.mapM Item.allocate typed = (.ok nodes, between) ∧
              Item.allocate item between = (.error fault, after)) ∧
            before.contents.AgreeOn (Set.Iio before.top \ typeBytes s) after.contents ∧
            nextSlot.read s after.contents = nextSlot.read s before.contents ∧
            ∀ (α : Type) (readers : List (Reader α)) (old : Address) (region : Set Nat),
              Stands readers before.contents old region → region ⊆ Set.Iio before.top →
                Disjoint region (typeBytes s) ∨
                  sTypeSlot.read s before.contents = .ok (Chained.sType v) →
                  Chain.read readers old after.contents = Chain.read readers old before.contents

def RefusedAsItem (σ : Type) {ι : Type} [Item ι] [Record σ] [Fitting σ] [Chained σ ι] [Item σ] :
    Prop :=
  ∀ (item : σ) (arena : Arena), Chained.next item ≠ [] →
    Item.allocate item arena =
      (.error (.conversion (.nestedChain (Item.structureType item))), arena)

theorem Chained.keepsOldChain {σ ι : Type} [Item ι] [Record σ] [Fitting σ] [Chained σ ι]
    [LawfulItem ι] : KeepsOldChain σ := by
  intro v s before head below
  obtain ⟨m, typing, agree, -⟩ := write_sType v head before
  refine ⟨_, typing, fun fault after failed => ?_⟩
  have ext := extends_of_mapM failed
  have kept : before.contents.AgreeOn (Set.Iio before.top \ typeBytes s) after.contents :=
    (agree.mono fun x inside => inside.2).trans (ext.agree.mono Set.sdiff_subset)
  refine ⟨write_refused head typing failed, exists_refused_of_mapM failed, kept, ?_, ?_⟩
  · have link : Set.Ico (s.start + linkOffset) (s.start + linkOffset + Scalar.width Address) ⊆
        Set.Iio before.top \ typeBytes s := by
      have room : 16 ≤ s.length := head
      have width : Scalar.width Address = 8 := rfl
      intro x inside
      simp only [linkOffset, width, typeBytes, Set.mem_Ico, Set.mem_sdiff, Set.mem_Iio] at inside ⊢
      omega
    change s.get linkOffset _ = s.get linkOffset _
    rw [Segment.get_apply s _ head, Segment.get_apply s _ head, (kept.mono link).read_congr]
  · rintro α readers old region stands inside (apart | held)
    · exact stands.read_eq (kept.mono (Set.subset_sdiff.2 ⟨inside, apart⟩))
    · have same : before.contents = m := congrArg (fun result => result.2.contents)
        ((write_sType_self head held).symm.trans typing)
      have whole : before.contents.AgreeOn (Set.Iio before.top) after.contents := by
        rw [same]
        exact ext.agree
      exact stands.read_eq (whole.mono inside)

/-- Of every structure with a chain. -/
theorem refused_chain_leaves_the_old (ι : Type) [Item ι] [LawfulItem ι] :
    (KeepsOldChain (PhysicalDeviceProperties2 ι) ∧
      KeepsOldChain (PhysicalDeviceMaintenance3Properties ι) ∧
      KeepsOldChain (PhysicalDeviceGroupProperties ι)) ∧
    RefusedAsItem (PhysicalDeviceProperties2 ι) ∧
    RefusedAsItem (PhysicalDeviceMaintenance3Properties ι) ∧
    RefusedAsItem (PhysicalDeviceGroupProperties ι) :=
  ⟨⟨Chained.keepsOldChain, Chained.keepsOldChain, Chained.keepsOldChain⟩,
    fun _ arena some => Chained.storeUnchained_of_ne some arena,
    fun _ arena some => Chained.storeUnchained_of_ne some arena,
    fun _ arena some => Chained.storeUnchained_of_ne some arena⟩

def overloaded : PhysicalDeviceProperties2 (PhysicalDeviceMaintenance3Properties Chain.Node) where
  sType := .physicalDeviceProperties2
  next := [⟨.physicalDeviceMaintenance3Properties, [], 1, 2⟩,
    ⟨.physicalDeviceMaintenance3Properties, [⟨1, 5, false⟩], 3, 4⟩]
  properties := {
    apiVersion := 1
    driverVersion := 2
    deviceType := .cpu
    deviceName := "GPU"
    pipelineCacheUuid := ⟨List.replicate 16 7, rfl⟩
    limits := ⟨1, [1, 2, 3], [⟨0⟩, ⟨0⟩], ⟨1⟩⟩ }

def blank : Arena := (allocate ⟨328, 8⟩ .empty).2

theorem refused_chain_leaves_the_old_overloaded : ∃ after,
    Structure.write overloaded ⟨4096, 328⟩ blank =
      (.error (.conversion (.nestedChain 1000168000)), after) ∧
    nextSlot.read ⟨4096, 328⟩ after.contents = .ok .null := by
  have keeps := (refused_chain_leaves_the_old (PhysicalDeviceMaintenance3Properties Chain.Node)).1.1
  obtain ⟨typed, typing, refused⟩ := keeps overloaded ⟨4096, 328⟩ blank (by decide) (by decide)
  have typed_eq : typed = (sTypeSlot.write .physicalDeviceProperties2 ⟨4096, 328⟩ blank).2 :=
    (congrArg Prod.snd typing).symm
  have failed : overloaded.next.mapM Item.allocate typed =
      (.error (.conversion (.nestedChain 1000168000)),
        (overloaded.next.mapM Item.allocate typed).2) := by
    refine Prod.ext ?_ rfl
    rw [typed_eq]
    decide
  obtain ⟨write, -, -, link, -⟩ := refused _ _ failed
  refine ⟨_, write, link.trans ?_⟩
  decide

end Bindwright.Vulkan
