import Bindwright.Proofs.Chain.Walk
import Mathlib.Data.Set.Lattice
import Mathlib.Order.CompletePartialOrder

/-!
# Chains that are linked and read back

`thread_apply` says what linking does to memory: each node leads to the one after it and the last to
the tail (`threaded_linked`), and no byte but those of the links changes (`agreeOn_linked`). The
path over the new nodes then goes on as the path from the tail went before, and a visit to a node
finds what it found before, since it does not look at the new links. So `read_link`: the items come
back in order, and after them what the tail read as.
-/

namespace Bindwright.Memory.Chain

variable {α : Type}

/-! ## Links in memory -/

def linkSpan (node : Segment) : Set Nat :=
  Set.Ico (node.start + linkOffset) (node.start + linkOffset + 8)

def linkBytes (nodes : List Segment) : Set Nat := {x | ∃ node ∈ nodes, x ∈ linkSpan node}

def headOf : List Segment → Address → Address
  | [], tail => tail
  | node :: _, _ => node.address

def linked : List Segment → Address → Contents → Contents
  | [], _, m => m
  | node :: nodes, tail, m =>
    (linked nodes tail m).write (node.start + linkOffset) (Scalar.encode (headOf nodes tail))

theorem thread_apply {nodes : List Segment} (large : ∀ node ∈ nodes, header.size ≤ node.length)
    (tail : Address) (arena : Arena) :
    thread nodes tail arena =
      (.ok (headOf nodes tail), { arena with contents := linked nodes tail arena.contents }) := by
  induction nodes with
  | nil => rfl
  | cons node nodes ih =>
    have rest := ih fun other member => large other (List.mem_cons_of_mem _ member)
    have room : linkOffset + Scalar.width Address ≤ node.length := large node List.mem_cons_self
    have written := Segment.set_apply node (headOf nodes tail)
      { arena with contents := linked nodes tail arena.contents } room
    unfold thread at rest ⊢
    rw [List.foldrM_cons, Action.bind_ok rest, Action.bind_ok written]
    rfl

theorem agreeOn_link (m : Contents) (node : Segment) (a : Address) :
    m.AgreeOn (linkSpan node)ᶜ (m.write (node.start + linkOffset) (Scalar.encode a)) := by
  have written := m.agreeOn_write (node.start + linkOffset) (Scalar.encode a)
  rwa [Scalar.length_encode] at written

theorem agreeOn_linked (nodes : List Segment) (tail : Address) (m : Contents) :
    m.AgreeOn (linkBytes nodes)ᶜ (linked nodes tail m) := by
  induction nodes with
  | nil => exact .refl _ _
  | cons node nodes ih =>
    have others : (linkBytes (node :: nodes))ᶜ ⊆ (linkBytes nodes)ᶜ := by
      rintro x outside ⟨other, member, inside⟩
      exact outside ⟨other, List.mem_cons_of_mem _ member, inside⟩
    have first : (linkBytes (node :: nodes))ᶜ ⊆ (linkSpan node)ᶜ :=
      fun x outside inside => outside ⟨node, List.mem_cons_self, inside⟩
    exact (ih.mono others).trans ((agreeOn_link _ node _).mono first)

/-! ## Nodes -/

structure IsNode (node : Segment) : Prop where
  large : header.size ≤ node.length
  valid : node.start ≠ 0
  bound : node.start < UInt64.size

namespace IsNode

variable {node : Segment}

theorem toNat_address (is : IsNode node) : node.address.value.toNat = node.start :=
  UInt64.toNat_ofNat_of_lt' is.bound

theorem isNull_address (is : IsNode node) : node.address.isNull = false := by
  refine beq_eq_false_iff_ne.2 fun null => is.valid ?_
  rw [← is.toNat_address, null]
  rfl

theorem start_mem (is : IsNode node) : node.start ∈ node.span :=
  ⟨Nat.le_refl _, Nat.lt_add_of_pos_right (Nat.lt_of_lt_of_le (Nat.zero_lt_succ 15) is.large)⟩

theorem linkSpan_subset (is : IsNode node) : linkSpan node ⊆ node.span := by
  have large : 16 ≤ node.length := is.large
  intro x inside
  simp only [linkSpan, linkOffset, Segment.span, Set.mem_Ico] at inside ⊢
  omega

theorem header_subset (is : IsNode node) :
    Set.Ico node.address.value.toNat (node.address.value.toNat + header.size) ⊆ node.span := by
  rw [is.toNat_address]
  exact Set.Ico_subset_Ico_right (Nat.add_le_add_left is.large _)

theorem linkAt_write (is : IsNode node) (m : Contents) (a : Address) :
    linkAt (m.write (node.start + linkOffset) (Scalar.encode a)) node.address = a := by
  have held := m.read_write_self (node.start + linkOffset) (Scalar.encode a)
  rw [Scalar.length_encode] at held
  unfold linkAt
  rw [is.toNat_address]
  exact (congrArg Scalar.decode held).trans (Scalar.decode_encode a)

end IsNode

theorem typeAt_congr {m m' : Contents} {a : Address}
    (agree : m.AgreeOn (Set.Ico a.value.toNat (a.value.toNat + 4)) m') :
    typeAt m' a = typeAt m a :=
  congrArg Scalar.decode agree.read_congr

theorem linkAt_congr {m m' : Contents} {a : Address}
    (agree : m.AgreeOn (Set.Ico a.value.toNat (a.value.toNat + header.size)) m') :
    linkAt m' a = linkAt m a := by
  have inside : Set.Ico (a.value.toNat + linkOffset) (a.value.toNat + linkOffset + 8) ⊆
      Set.Ico a.value.toNat (a.value.toNat + header.size) :=
    Set.Ico_subset_Ico (Nat.le_add_right _ _) (Nat.le_of_eq (Nat.add_assoc _ _ _))
  exact congrArg Scalar.decode (agree.mono inside).read_congr

def Apart (node other : Segment) : Prop := Disjoint node.span other.span

instance : Std.Symm Apart := ⟨fun _ _ apart => apart.symm⟩

theorem outside_linkBytes {nodes : List Segment} (are : ∀ node ∈ nodes, IsNode node)
    (apart : nodes.Pairwise Apart) {node : Segment} (member : node ∈ nodes) {x : Nat}
    (inside : x ∈ node.span) (outside : x ∉ linkSpan node) : x ∈ (linkBytes nodes)ᶜ := by
  rintro ⟨other, member', inside'⟩
  by_cases same : node = other
  · exact outside (same ▸ inside')
  · exact (apart.forall member member' same).notMem_of_mem_left inside
      ((are other member').linkSpan_subset inside')

theorem typeAt_linked {nodes : List Segment} (are : ∀ node ∈ nodes, IsNode node)
    (apart : nodes.Pairwise Apart) (tail : Address) (m : Contents) {node : Segment}
    (member : node ∈ nodes) :
    typeAt (linked nodes tail m) node.address = typeAt m node.address := by
  have is := are node member
  have large : 16 ≤ node.length := is.large
  refine typeAt_congr ((agreeOn_linked nodes tail m).mono fun x inside => ?_)
  rw [is.toNat_address, Set.mem_Ico] at inside
  apply outside_linkBytes are apart member
  · simp only [Segment.span, Set.mem_Ico]
    omega
  · simp only [linkSpan, linkOffset, Set.mem_Ico]
    omega

theorem nodup_addresses {nodes : List Segment} (are : ∀ node ∈ nodes, IsNode node)
    (apart : nodes.Pairwise Apart) : (nodes.map Segment.address).Nodup := by
  refine List.pairwise_map.2 (apart.imp_of_mem ?_)
  intro node other member member' disjoint same
  have starts : node.start = other.start := by
    rw [← (are node member).toNat_address, same, (are other member').toNat_address]
  have inside := (are other member').start_mem
  rw [← starts] at inside
  exact disjoint.notMem_of_mem_left (are node member).start_mem inside

/-! ## Threads -/

def Threaded (m : Contents) : List Segment → Address → Prop
  | [], _ => True
  | node :: nodes, tail => linkAt m node.address = headOf nodes tail ∧ Threaded m nodes tail

theorem Threaded.congr {m m' : Contents} {nodes : List Segment} {tail : Address}
    (threaded : Threaded m nodes tail)
    (same : ∀ node ∈ nodes, linkAt m' node.address = linkAt m node.address) :
    Threaded m' nodes tail := by
  induction nodes with
  | nil => trivial
  | cons node nodes ih =>
    exact ⟨(same node List.mem_cons_self).trans threaded.1,
      ih threaded.2 fun other member => same other (List.mem_cons_of_mem _ member)⟩

theorem threaded_linked {nodes : List Segment} (are : ∀ node ∈ nodes, IsNode node)
    (apart : nodes.Pairwise Apart) (tail : Address) (m : Contents) :
    Threaded (linked nodes tail m) nodes tail := by
  induction nodes with
  | nil => trivial
  | cons node nodes ih =>
    have is := are node List.mem_cons_self
    have others : ∀ other ∈ nodes, IsNode other :=
      fun other member => are other (List.mem_cons_of_mem _ member)
    obtain ⟨first, rest⟩ := List.pairwise_cons.1 apart
    refine ⟨is.linkAt_write _ _, (ih others rest).congr fun other member => ?_⟩
    -- The link of `node` is the last to be written, and lies outside the other nodes.
    have outside := ((first other member).mono_left is.linkSpan_subset).symm.subset_compl_right
    exact linkAt_congr ((agreeOn_link _ node _).mono ((others other member).header_subset.trans outside))

theorem Threaded.path {m : Contents} {nodes : List Segment} {tail z : Address} {as : List Address}
    (threaded : Threaded m nodes tail) (are : ∀ node ∈ nodes, IsNode node)
    (path : Path m tail as z) :
    Path m (headOf nodes tail) (nodes.map Segment.address ++ as) z := by
  induction nodes with
  | nil => exact path
  | cons node nodes ih =>
    have rest := ih threaded.2 fun other member => are other (List.mem_cons_of_mem _ member)
    rw [← threaded.1] at rest
    exact .node (are node List.mem_cons_self).isNull_address rest

theorem Path.congr {m m' : Contents} {a z : Address} {as : List Address} (path : Path m a as z)
    (same : ∀ b ∈ as, linkAt m' b = linkAt m b) : Path m' a as z := by
  induction path with
  | stop a => exact .stop a
  | @node a z as valid rest ih =>
    have onward := ih fun b member => same b (List.mem_cons_of_mem _ member)
    rw [← same a List.mem_cons_self] at onward
    exact .node valid onward

/-! ## Items and their nodes -/

def Reachable (m : Contents) (head a : Address) : Prop :=
  ∃ i, station m head i = a ∧ ∀ j ≤ i, (station m head j).isNull = false

structure Occupies (readers : List (Reader α)) (m : Contents) (a : Address) (region : Set Nat) :
    Prop where
  header : Set.Ico a.value.toNat (a.value.toNat + header.size) ⊆ region
  reading : LooksAt (visit readers a) m region

theorem occupies_of_looksAt {readers : List (Reader α)} {m : Contents} {a : Address}
    {region : Set Nat}
    (inside : Set.Ico a.value.toNat (a.value.toNat + Chain.header.size) ⊆ region)
    (looks : ∀ reader, readerFor readers (typeAt m a) = some reader →
      LooksAt (reader.read (.ofAddress a reader.layout.size)) m region) :
    Occupies readers m a region := by
  refine ⟨inside, fun m' agree => ?_⟩
  have within : Set.Ico a.value.toNat (a.value.toNat + 4) ⊆ region :=
    (Set.Ico_subset_Ico_right (Nat.add_le_add_left (by decide) _)).trans inside
  unfold visit
  rw [typeAt_congr (agree.mono within)]
  cases found : readerFor readers (typeAt m a) with
  | none => rfl
  | some reader => exact congrArg (some <$> ·) (looks reader found m' agree)

/-- Nodes that leave the chain from `tail` alone. -/
def ClearOf (readers : List (Reader α)) (m : Contents) (nodes : List Segment) (tail : Address) :
    Prop :=
  ∀ a, Reachable m tail a →
    ∃ region, Occupies readers m a region ∧ ∀ node ∈ nodes, Disjoint node.span region

theorem exists_path_of_read {readers : List (Reader α)} {m : Contents} {head : Address}
    {old : List α} (walk : read readers head m = .ok old) :
    ∃ as z found, Path m head as z ∧ z.isNull = true ∧ as.Nodup ∧
      (∀ a ∈ as, Reachable m head a) ∧
      (as.mapM fun a => visit readers a m) = .ok found ∧ found.reduceOption = old := by
  obtain ⟨k, ends, goes⟩ := exists_ends m head
  have valid := isNull_station goes
  rw [read_stations readers ends goes] at walk
  cases visits : (stations m head k).mapM fun a => visit readers a m with
  | error fault => rw [visits] at walk; cases walk
  | ok found =>
    rw [visits] at walk
    simp only [Except.bind, finish] at walk
    cases null : (station m head k).isNull with
    | false => simp [null] at walk
    | true =>
      refine ⟨_, _, found, path_stations valid, null, nodup_stations goes, ?_, visits, ?_⟩
      · intro a member
        obtain ⟨i, inside, rfl⟩ := List.mem_map.1 member
        exact ⟨i, rfl, fun j le => valid j (Nat.lt_of_le_of_lt le (List.mem_range.1 inside))⟩
      · simpa [null] using walk

theorem ClearOf.kept {readers : List (Reader α)} {m : Contents} {nodes : List Segment}
    {tail a : Address} (clear : ClearOf readers m nodes tail) (are : ∀ node ∈ nodes, IsNode node)
    (reachable : Reachable m tail a) :
    linkAt (linked nodes tail m) a = linkAt m a ∧
      visit readers a (linked nodes tail m) = visit readers a m ∧
      a ∉ nodes.map Segment.address := by
  obtain ⟨region, occupies, disjoint⟩ := clear a reachable
  have outside : region ⊆ (linkBytes nodes)ᶜ := by
    rintro x inside ⟨node, member, link⟩
    exact (disjoint node member).notMem_of_mem_right inside
      ((are node member).linkSpan_subset link)
  have agree := (agreeOn_linked nodes tail m).mono outside
  refine ⟨linkAt_congr (agree.mono occupies.header), occupies.reading _ agree, ?_⟩
  intro new
  obtain ⟨node, member, rfl⟩ := List.mem_map.1 new
  have is := are node member
  have first : node.start ∈ region :=
    occupies.header (is.toNat_address ▸ ⟨Nat.le_refl _, Nat.lt_add_of_pos_right (by decide)⟩)
  exact (disjoint node member).notMem_of_mem_left is.start_mem first

variable [Item α]

/-- `node` begins with the type of `item`, and the first reader of that type reads the item back
from it, whatever the links of `nodes` hold. -/
structure Holds (readers : List (Reader α)) (m : Contents) (nodes : List Segment) (item : α)
    (node : Segment) : Prop where
  type : typeAt m node.address = Item.structureType item
  reading : ∀ reader, readerFor readers (Item.structureType item) = some reader →
    reader.read (.ofAddress node.address reader.layout.size) m = .ok item ∧
      LooksAt (reader.read (.ofAddress node.address reader.layout.size)) m (linkBytes nodes)ᶜ

def itemFound (readers : List (Reader α)) (item : α) : Option α :=
  (readerFor readers (Item.structureType item)).map fun _ => item

theorem visit_of_holds {readers : List (Reader α)} {m m' : Contents} {nodes : List Segment}
    {item : α} {node : Segment} (holds : Holds readers m nodes item node)
    (type : typeAt m' node.address = typeAt m node.address)
    (agree : m.AgreeOn (linkBytes nodes)ᶜ m') :
    visit readers node.address m' = .ok (itemFound readers item) := by
  unfold visit itemFound
  rw [type, holds.type]
  cases found : readerFor readers (Item.structureType item) with
  | none => rfl
  | some reader =>
    obtain ⟨value, looks⟩ := holds.reading reader found
    simp only [looks m' agree, value]
    rfl

theorem reduceOption_itemFound (readers : List (Reader α)) (items : List α) :
    (items.map (itemFound readers)).reduceOption =
      items.filter fun item => (readerFor readers (Item.structureType item)).isSome := by
  induction items with
  | nil => rfl
  | cons item items ih =>
    cases found : readerFor readers (Item.structureType item) with
    | none => simp [itemFound, found, ih]
    | some reader => simp [itemFound, found, ih]

/-! ## Reading what was linked -/

theorem mapM_visit_linked {readers : List (Reader α)} {m : Contents} {items : List α}
    {nodes : List Segment} (tail : Address) (are : ∀ node ∈ nodes, IsNode node)
    (apart : nodes.Pairwise Apart) (holds : List.Forall₂ (Holds readers m nodes) items nodes) :
    ((nodes.map Segment.address).mapM fun a => visit readers a (linked nodes tail m)) =
      .ok (items.map (itemFound readers)) := by
  rw [Traversal.mapM_eq_ok_iff, List.forall₂_map_left_iff, List.forall₂_map_right_iff]
  refine List.Forall₂.flip ?_
  rw [List.forall₂_iff_zip] at holds ⊢
  refine ⟨holds.1, fun {item node} here => ?_⟩
  exact visit_of_holds (holds.2 here)
    (typeAt_linked are apart tail m (List.of_mem_zip here).2) (agreeOn_linked nodes tail m)

/-- Items that are linked ahead of a chain are read back in order, without those for whose type
there is no reader, and then the chain as before. Of the memory with the items' nodes only the
links of these change. Linking nothing gives the tail and leaves all as it is. -/
theorem read_link (readers : List (Reader α)) {items : List α} {tail : Address}
    {nodes : List Segment} {before after : Arena} {old : List α}
    (allocated : items.mapM Item.allocate before = (.ok nodes, after))
    (are : ∀ node ∈ nodes, IsNode node) (apart : nodes.Pairwise Apart)
    (clear : ClearOf readers after.contents nodes tail)
    (holds : List.Forall₂ (Holds readers after.contents nodes) items nodes)
    (walk : read readers tail after.contents = .ok old) :
    ∃ head m, link items tail before = (.ok head, { after with contents := m }) ∧
      read readers head m = .ok
        (items.filter (fun item => (readerFor readers (Item.structureType item)).isSome) ++ old) ∧
      after.contents.AgreeOn (linkBytes nodes)ᶜ m ∧
      (items = [] → head = tail ∧ after = before ∧ m = before.contents) := by
  obtain ⟨as, z, found, path, null, nodup, reach, visits, rfl⟩ := exists_path_of_read walk
  have kept := fun a member => clear.kept are (reach a member)
  have onward : Path (linked nodes tail after.contents) tail as z :=
    path.congr fun a member => (kept a member).1
  have whole := (threaded_linked are apart tail after.contents).path are onward
  -- No new node is one of the old chain, so the longer walk meets none twice either.
  have distinct : (nodes.map Segment.address ++ as).Nodup :=
    (nodup_addresses are apart).append nodup fun a new member => (kept a member).2.2 new
  have unchanged : (as.mapM fun a => visit readers a (linked nodes tail after.contents)) =
      .ok found := by
    rw [← visits]
    exact Traversal.mapM_congr fun a member => (kept a member).2.1
  refine ⟨headOf nodes tail, linked nodes tail after.contents, ?_, ?_,
    agreeOn_linked nodes tail after.contents, ?_⟩
  · unfold link
    rw [Action.bind_ok allocated]
    exact thread_apply (fun node member => (are node member).large) tail after
  · rw [read_of_path whole distinct (.inl null), List.mapM_append,
      mapM_visit_linked tail are apart holds, unchanged]
    simp only [bind, Except.bind, pure, Except.pure, finish, null, ↓reduceIte,
      List.reduceOption_append, reduceOption_itemFound]
  · rintro rfl
    cases allocated
    exact ⟨rfl, rfl, rfl⟩

theorem Node.read_looksAt (s : Segment) (m : Contents) (large : 20 ≤ s.length) :
    LooksAt (Node.read s) m (Set.Ico s.start (s.start + 4) ∪
      Set.Ico (s.start + payloadOffset) (s.start + payloadOffset + 4)) := by
  intro m' agree
  have type : m'.read (s.start + 0) 4 = m.read (s.start + 0) 4 :=
    (agree.mono Set.subset_union_left).read_congr
  have payload : m'.read (s.start + payloadOffset) 4 = m.read (s.start + payloadOffset) 4 :=
    (agree.mono Set.subset_union_right).read_congr
  have reads : ∀ m, Node.read s m = .ok ⟨Scalar.decode (m.read (s.start + 0) 4),
      Scalar.decode (m.read (s.start + payloadOffset) 4), false⟩ := by
    intro m
    have first : s.get 0 m = .ok (Scalar.decode (m.read (s.start + 0) 4) : Int32) :=
      Segment.get_apply s m (Nat.le_trans (by decide) large)
    have second : s.get payloadOffset m =
        .ok (Scalar.decode (m.read (s.start + payloadOffset) 4) : UInt32) :=
      Segment.get_apply s m large
    simp only [Node.read, Access.bind_apply, first, second, Except.bind]
    rfl
  rw [reads, reads, type, payload]

theorem Node.read_looksAt_nodes {nodes : List Segment} (are : ∀ node ∈ nodes, IsNode node)
    (apart : nodes.Pairwise Apart) {node : Segment} (member : node ∈ nodes)
    (large : 20 ≤ node.length) (m : Contents) :
    LooksAt (Node.read node) m (linkBytes nodes)ᶜ := by
  refine (Node.read_looksAt node m large).mono fun x inside => ?_
  simp only [payloadOffset, Set.mem_union, Set.mem_Ico] at inside
  apply outside_linkBytes are apart member
  · simp only [Segment.span, Set.mem_Ico]
    omega
  · simp only [linkSpan, linkOffset, Set.mem_Ico]
    omega

def single : Arena := (Item.allocate (⟨1, 9, false⟩ : Node) .empty).2

def three : List Node := [⟨1, 5, false⟩, ⟨2, 6, false⟩, ⟨1, 7, false⟩]

def threeNodes : List Segment := [⟨4120, 24⟩, ⟨4144, 24⟩, ⟨4168, 24⟩]

def threeAllocated : Arena := (three.mapM Item.allocate single).2

theorem read_link_three : ∃ head m,
    link three ⟨4096⟩ single = (.ok head, { threeAllocated with contents := m }) ∧
      read [Node.reader 1] head m =
        .ok [⟨1, 5, false⟩, ⟨1, 7, false⟩, ⟨1, 9, false⟩] := by
  have allocated : three.mapM Item.allocate single = (.ok threeNodes, threeAllocated) :=
    Prod.ext (by decide) rfl
  have are : ∀ node ∈ threeNodes, IsNode node := by
    intro node member
    simp only [threeNodes, List.mem_cons, List.not_mem_nil, or_false] at member
    rcases member with rfl | rfl | rfl <;> exact ⟨by decide, by decide, by decide⟩
  have apart : threeNodes.Pairwise Apart := by
    simp only [threeNodes, List.pairwise_cons, List.mem_cons, Apart, Segment.span,
      Set.disjoint_left, Set.mem_Ico]
    grind
  have only : ∀ {type reader}, readerFor [Node.reader 1] type = some reader →
      reader = Node.reader 1 :=
    fun found => List.mem_singleton.1 (List.mem_of_find?_eq_some found)
  have clear : ClearOf [Node.reader 1] threeAllocated.contents threeNodes ⟨4096⟩ := by
    rintro a ⟨i, rfl, valid⟩
    cases i with
    | succ i =>
      have null : (station threeAllocated.contents ⟨4096⟩ 1).isNull = true := by decide
      rw [valid 1 (Nat.succ_le_succ (Nat.zero_le i))] at null
      cases null
    | zero =>
      refine ⟨Set.Ico 4096 4120, occupies_of_looksAt ?_ fun reader found => ?_, ?_⟩
      · exact Set.Ico_subset_Ico_right (by decide)
      · rw [only found]
        refine (Node.read_looksAt ⟨4096, 24⟩ _ (by decide)).mono ?_
        exact Set.union_subset (Set.Ico_subset_Ico_right (by decide))
          (Set.Ico_subset_Ico (by decide) (by decide))
      · simp only [threeNodes, List.mem_cons, Segment.span, Set.disjoint_left, Set.mem_Ico]
        grind
  have looks : ∀ node ∈ threeNodes,
      LooksAt (Node.read node) threeAllocated.contents (linkBytes threeNodes)ᶜ := by
    intro node member
    refine Node.read_looksAt_nodes are apart member ?_ _
    simp only [threeNodes, List.mem_cons, List.not_mem_nil, or_false] at member
    rcases member with rfl | rfl | rfl <;> decide
  have holds : List.Forall₂ (Holds [Node.reader 1] threeAllocated.contents threeNodes) three
      threeNodes := by
    refine .cons ⟨by decide, fun reader found => ?_⟩ (.cons ⟨by decide,
      fun reader found => ?_⟩ (.cons ⟨by decide, fun reader found => ?_⟩ .nil))
    · rw [only found]
      exact ⟨by decide, looks ⟨4120, 24⟩ (by decide)⟩
    · cases found
    · rw [only found]
      exact ⟨by decide, looks ⟨4168, 24⟩ (by decide)⟩
  have walk : read [Node.reader 1] ⟨4096⟩ threeAllocated.contents = .ok [⟨1, 9, false⟩] := by
    decide
  obtain ⟨head, m, linked, items, -, -⟩ :=
    read_link [Node.reader 1] allocated are apart clear holds walk
  exact ⟨head, m, linked, items⟩

end Bindwright.Memory.Chain
