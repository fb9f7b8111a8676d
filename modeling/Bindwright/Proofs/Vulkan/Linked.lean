import Bindwright.Proofs.Vulkan.Chained
import Bindwright.Vulkan.Extension

namespace Bindwright.Vulkan

open Memory Slot Chain

theorem isNode_of_adds {before after : Arena} {node : Segment} (positive : 0 < before.top)
    (adds : before.Adds node after) (large : header.size ≤ node.length) : IsNode node :=
  ⟨large, Nat.ne_of_gt (positive.trans_le adds.above), adds.bound⟩

theorem below_linkBytes {nodes : List Segment} {bound : Nat} (are : ∀ node ∈ nodes, IsNode node)
    (above : ∀ node ∈ nodes, bound ≤ node.start) : Set.Iio bound ⊆ (linkBytes nodes)ᶜ := by
  rintro x low ⟨node, member, link⟩
  exact absurd ((above node member).trans ((are node member).linkSpan_subset link).1)
    (Nat.not_le.2 low)

theorem get_link_congr {s : Segment} {m m' : Contents} (head : 16 ≤ s.length)
    (agree : m.AgreeOn (Set.Ico s.start (s.start + 4))ᶜ m') :
    (s.get linkOffset : Access Address) m' = s.get linkOffset m := by
  have link : Set.Ico (s.start + linkOffset) (s.start + linkOffset + Scalar.width Address) ⊆
      (Set.Ico s.start (s.start + 4))ᶜ := by
    intro x inside early
    simp only [linkOffset, Set.mem_Ico] at inside early
    omega
  rw [Segment.get_apply s _ head, Segment.get_apply s _ head, (agree.mono link).read_congr]

theorem typeAt_of_sType {node : Segment} {m : Contents} {type : StructureType} (is : IsNode node)
    (read : sTypeSlot.read node m = .ok type) :
    typeAt m node.address = Enumeration.value type := by
  have room : 0 + Scalar.width Int32 ≤ node.length := Nat.le_trans (by decide) is.large
  have get : node.get 0 m = .ok (Scalar.decode _ : Int32) := Segment.get_apply node m room
  simp only [sTypeSlot, enumerator, Access.bind_eq_ok_iff, Access.lift_eq_ok_iff, get,
    Except.ok.injEq, exists_eq_left',
    Enumeration.ofValue_eq_ok_iff StructureType.mem_all (by decide)] at read
  unfold typeAt
  rw [is.toNat_address]
  exact read

namespace Chained

variable {σ ι : Type} [Item ι] [Record σ] [Fitting σ] [chained : Chained σ ι] {v : σ} {s : Segment}

include chained in
theorem read_congr {m m' : Contents} (room : (Record.layout σ).size ≤ s.length)
    (agree : m.AgreeOn (s.span \ linkSpan s) m') (read : Structure.read s m = .ok v) :
    Structure.read s m' = .ok v := by
  have head : 16 ≤ s.length := chained.order.le.trans room
  have none_ := chained.next_of_read read
  rw [← alone_of_next none_, read_eq_ok_iff] at read ⊢
  have type := sTypeSlot_lawful.stores s (Nat.le_trans (by decide) head) (sType v)
  have body := laws.stores order s room v
  refine ⟨type.stable (agree.mono ?_) read.1, body.stable (agree.mono ?_) read.2⟩
  · intro x inside
    simp only [linkSpan, linkOffset, Segment.span, Set.mem_sdiff, Set.mem_Ico] at inside ⊢
    omega
  · intro x inside
    simp only [linkSpan, linkOffset, header, Segment.span, Set.mem_sdiff, Set.mem_Ico] at inside ⊢
    omega

include chained in
theorem looksAt {m : Contents} (room : (Record.layout σ).size ≤ s.length)
    (read : Structure.read s m = .ok v) :
    LooksAt (Structure.read s : Access σ) m (s.span \ linkSpan s) :=
  fun _ agree => (read_congr room agree read).trans read.symm

theorem disjoint_of_adds {before after : Arena} {node : Segment}
    (below : s.start + s.length ≤ before.top) (adds : before.Adds node after) :
    Disjoint node.span s.span :=
  Set.disjoint_left.2 fun _ inside inside' =>
    absurd (inside'.2.trans_le (below.trans (adds.above.trans inside.1))) (Nat.lt_irrefl _)

theorem nodes_kept {nodes : List Segment} {old : Address} {m m' : Contents} {region : Set Nat}
    (are : ∀ node ∈ nodes, IsNode node) (apart : nodes.Pairwise Apart)
    (agree : (linked nodes old m).AgreeOn regionᶜ m')
    (spared : ∀ node ∈ nodes, Disjoint node.span region) :
    Threaded m' nodes old ∧ ∀ node ∈ nodes, m.AgreeOn (node.span \ linkSpan node) m' := by
  refine ⟨?_, fun node member => ?_⟩
  · refine (threaded_linked are apart old m).congr fun node member => ?_
    refine linkAt_congr (agree.mono ((are node member).header_subset.trans ?_))
    exact (spared node member).subset_compl_right
  · refine ((agreeOn_linked nodes old m).mono fun x inside => ?_).trans
      (agree.mono (Set.sdiff_subset.trans (spared node member).subset_compl_right))
    exact outside_linkBytes are apart member inside.1 inside.2

structure Written (v : σ) (s : Segment) (before : Arena) (nodes : List Segment) (old : Address)
    (allocated m : Contents) : Prop where
  read_eq : Fitting.fault v = none → Structure.read s m = .ok (alone v)
  link_eq : s.get linkOffset m = .ok (headOf nodes old)
  are : ∀ node ∈ nodes, IsNode node
  above : ∀ node ∈ nodes, before.top ≤ node.start
  apart : nodes.Pairwise Apart
  threaded : Threaded m nodes old
  agree : ∀ node ∈ nodes, allocated.AgreeOn (node.span \ linkSpan node) m
  others : before.contents.AgreeOn (Set.Iio before.top \ s.span) m

theorem written [LawfulItem ι] {before typed allocated : Arena} {nodes : List Segment}
    {old : Address}
    (room : (Record.layout σ).size ≤ s.length) (below : s.start + s.length ≤ before.top)
    (typing : sTypeSlot.write (sType v) s before = (.ok (), typed))
    (held : s.get linkOffset before.contents = .ok old)
    (made : (next v).mapM Item.allocate typed = (.ok nodes, allocated)) :
    ∃ m, Structure.write v s before =
        (outcome (Fitting.fault v), { allocated with contents := m }) ∧
      Written v s before nodes old allocated.contents m := by
  have head : 16 ≤ s.length := chained.order.le.trans room
  obtain ⟨m, typing', agree, type⟩ := write_sType v head before
  obtain rfl : typed = { before with contents := m } :=
    congrArg Prod.snd (typing.symm.trans typing')
  have run := allocations_of_mapM made
  have adds : ∀ node ∈ nodes, before.Adds node allocated := fun node member =>
    have new := (run.adds node member).1
    ⟨new.above, new.below, new.bound⟩
  have large : ∀ node ∈ nodes, header.size ≤ node.length := fun node member =>
    (run.adds node member).2
  have are : ∀ node ∈ nodes, IsNode node := fun node member =>
    isNode_of_adds (Nat.lt_of_lt_of_le (by omega) below) (adds node member) (large node member)
  have above : ∀ node ∈ nodes, before.top ≤ node.start := fun node member =>
    (adds node member).above
  obtain ⟨m', written, agree', link, body⟩ :=
    write_linked room typing ((get_link_congr head agree).trans held) made large
  -- The last write stays inside the structure, behind its type.
  let late := Set.Ico (s.start + linkOffset) (s.start + (Record.layout σ).size)
  have lateInside : late ⊆ s.span :=
    Set.Ico_subset_Ico (Nat.le_add_right _ _) (Nat.add_le_add_left room _)
  have low : m.AgreeOn (Set.Iio before.top \ late) m' := by
    have linking := (agreeOn_linked nodes old allocated.contents).mono (below_linkBytes are above)
    exact ((run.extends.agree.trans linking).mono Set.sdiff_subset).trans
      (agree'.mono fun x inside => inside.2)
  obtain ⟨threaded, kept⟩ := nodes_kept are run.apart agree' fun node member =>
    (disjoint_of_adds below (adds node member)).mono_right lateInside
  refine ⟨m', written, ⟨fun fits => ?_, link, are, above, run.apart, threaded, kept, ?_⟩⟩
  · have stores := sTypeSlot_lawful.stores s (Nat.le_trans (by decide) head) (sType v)
    refine read_eq_ok_iff.2 ⟨stores.stable (low.mono fun x inside => ⟨?_, ?_⟩) type, body fits⟩
    · simp only [Set.mem_Ico, Set.mem_Iio] at inside ⊢
      omega
    · simp only [late, linkOffset, Set.mem_Ico] at inside ⊢
      omega
  · refine (agree.mono fun x outside inside => outside.2 ?_).trans
      (low.mono (Set.sdiff_subset_sdiff_right lateInside))
    simp only [Segment.span, Set.mem_Ico] at inside ⊢
    omega

theorem Written.read_chain {α : Type} {readers : List (Reader α)} {before allocated : Arena}
    {nodes : List Segment} {old : Address} {m : Contents} {found rest : List α}
    (written : Written v s before nodes old allocated.contents m)
    (visits : (nodes.map Segment.address).mapM (fun a => visit readers a m) =
      .ok (found.map some))
    (stands : Stands readers before.contents old (Set.Iio before.top \ s.span))
    (walk : read readers old before.contents = .ok rest) :
    read readers (headOf nodes old) m = .ok (found ++ rest) := by
  have same := fun a reachable => stands.same (a := a) written.others reachable
  have beyond : ∀ a, Reachable m old a → a ∉ nodes.map Segment.address := by
    intro a reachable member
    obtain ⟨node, here, rfl⟩ := List.mem_map.1 member
    have low := (stands _ (reachable.congr fun a there => (same a there).1)).mem.1
    rw [(written.are node here).toNat_address] at low
    exact absurd (written.above node here) (Nat.not_le.2 low)
  have walk' : read readers old m = .ok rest := (stands.read_eq written.others).trans walk
  have whole := read_threaded written.are written.apart written.threaded visits beyond walk'
  have all : (found.map some).reduceOption = found := by
    rw [List.reduceOption, List.filterMap_map, Function.id_comp, List.filterMap_some]
  rwa [all] at whole

end Chained
end Bindwright.Vulkan
