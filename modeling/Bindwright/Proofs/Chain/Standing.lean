import Bindwright.Proofs.Chain.Linking

namespace Bindwright.Memory.Chain

variable {α : Type} {readers : List (Reader α)} {m m' : Contents} {head a : Address}
  {region : Set Nat}

/-- In `region` lie all nodes from `head`, with what is looked at to read them. -/
def Stands (readers : List (Reader α)) (m : Contents) (head : Address) (region : Set Nat) : Prop :=
  ∀ a, Reachable m head a → Occupies readers m a region

theorem Occupies.mem (occupies : Occupies readers m a region) : a.value.toNat ∈ region :=
  occupies.header ⟨Nat.le_refl _, Nat.lt_add_of_pos_right (by decide)⟩

theorem stands_null (readers : List (Reader α)) (m : Contents) (null : head.isNull = true)
    (region : Set Nat) : Stands readers m head region := by
  rintro a ⟨i, -, valid⟩
  have first := valid 0 (Nat.zero_le i)
  rw [station, Function.iterate_zero_apply, null] at first
  cases first

theorem station_zero (m : Contents) (head : Address) : station m head 0 = head :=
  Function.iterate_zero_apply (linkAt m) head

theorem station_succ_last (m : Contents) (head : Address) (i : Nat) :
    station m head (i + 1) = linkAt m (station m head i) :=
  Function.iterate_succ_apply' (linkAt m) i head

theorem station_congr (same : ∀ a, Reachable m head a → linkAt m' a = linkAt m a) {i : Nat}
    (valid : ∀ j ≤ i, (station m' head j).isNull = false) :
    station m' head i = station m head i ∧ ∀ j ≤ i, (station m head j).isNull = false := by
  induction i with
  | zero =>
    have first := valid 0 (Nat.le_refl 0)
    rw [station_zero] at first
    rw [station_zero, station_zero]
    refine ⟨rfl, fun j le => ?_⟩
    rwa [Nat.le_zero.1 le, station_zero]
  | succ i ih =>
    obtain ⟨here, before⟩ := ih fun j le => valid j (Nat.le_succ_of_le le)
    have next : station m' head (i + 1) = station m head (i + 1) := by
      rw [station_succ_last, station_succ_last, here, same _ ⟨i, rfl, before⟩]
    refine ⟨next, fun j le => ?_⟩
    rcases Nat.le_succ_iff.1 le with early | last
    · exact before j early
    · rw [last, ← next]
      exact valid (i + 1) (Nat.le_refl _)

theorem Reachable.congr (same : ∀ a, Reachable m head a → linkAt m' a = linkAt m a)
    (reachable : Reachable m' head a) : Reachable m head a := by
  obtain ⟨i, rfl, valid⟩ := reachable
  obtain ⟨here, before⟩ := station_congr same valid
  exact ⟨i, here.symm, before⟩

theorem read_congr (same : ∀ a, Reachable m head a →
      linkAt m' a = linkAt m a ∧ visit readers a m' = visit readers a m) :
    read readers head m' = read readers head m := by
  obtain ⟨k, ends, goes⟩ := exists_ends m head
  have valid := isNull_station goes
  have reach : ∀ a ∈ stations m head k, Reachable m head a := by
    intro a member
    obtain ⟨i, inside, rfl⟩ := List.mem_map.1 member
    exact ⟨i, rfl, fun j le => valid j (Nat.lt_of_le_of_lt le (List.mem_range.1 inside))⟩
  have path : Path m' head (stations m head k) (station m head k) :=
    (path_stations valid).congr fun a member => (same a (reach a member)).1
  have ends' : (station m head k).isNull = true ∨ station m head k ∈ stations m head k := by
    rcases ends with null | ⟨j, before, back⟩
    · exact .inl null
    · exact .inr (back ▸ station_mem_stations before)
  rw [read_stations readers ends goes, read_of_path path (nodup_stations goes) ends']
  congr 1
  exact Traversal.mapM_congr fun a member => (same a (reach a member)).2

theorem Stands.same (stands : Stands readers m head region) (agree : m.AgreeOn region m')
    (reachable : Reachable m head a) :
    linkAt m' a = linkAt m a ∧ visit readers a m' = visit readers a m :=
  ⟨linkAt_congr (agree.mono (stands a reachable).header),
    (stands a reachable).reading m' agree⟩

theorem Stands.read_eq (stands : Stands readers m head region) (agree : m.AgreeOn region m') :
    read readers head m' = read readers head m :=
  read_congr fun _ reachable => stands.same agree reachable

theorem read_threaded {nodes : List Segment} {found : List (Option α)} {old : List α}
    (are : ∀ node ∈ nodes, IsNode node) (apart : nodes.Pairwise Apart)
    (threaded : Threaded m nodes head)
    (visits : ((nodes.map Segment.address).mapM fun a => visit readers a m) = .ok found)
    (beyond : ∀ a, Reachable m head a → a ∉ nodes.map Segment.address)
    (walk : read readers head m = .ok old) :
    read readers (headOf nodes head) m = .ok (found.reduceOption ++ old) := by
  obtain ⟨as, z, found', path, null, nodup, reach, visits', rfl⟩ := exists_path_of_read walk
  have distinct : (nodes.map Segment.address ++ as).Nodup :=
    (nodup_addresses are apart).append nodup fun a new member => beyond a (reach a member) new
  rw [read_of_path (threaded.path are path) distinct (.inl null), List.mapM_append, visits, visits']
  simp only [bind, Except.bind, pure, Except.pure, finish, null, ↓reduceIte,
    List.reduceOption_append]

end Bindwright.Memory.Chain
