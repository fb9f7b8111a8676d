import Bindwright.Memory.Chain
import Bindwright.Proofs.Memory.Footprint
import Bindwright.Proofs.Traversal
import Mathlib.Data.Fintype.Pigeonhole
import Mathlib.Data.List.ReduceOption
import Mathlib.Data.List.Range
import Mathlib.Data.List.Perm.Subperm

/-!
# The walk along a chain

A chain is read node by node. `Path m a as z` says that the links of `m` lead from `a` over the
nodes `as` to `z`, and `visit` is what is done at one node. `read_of_path` is the walk along a path
that ends at null or comes back. In any memory the links from an address end like this (`Ends`), so
every walk is one along a path (`read_stations`, `read_ends_at_null_or_return`).
-/

namespace Bindwright.Memory.Chain

variable {α : Type}

def typeAt (m : Contents) (a : Address) : Int32 :=
  Scalar.decode (m.read a.value.toNat 4)

def linkAt (m : Contents) (a : Address) : Address :=
  Scalar.decode (m.read (a.value.toNat + linkOffset) 8)

def readerFor (readers : List (Reader α)) (structureType : Int32) : Option (Reader α) :=
  readers.find? (·.structureType == structureType)

/-- Reads the node at `a` with the reader of its type, and nothing where there is none. -/
def visit (readers : List (Reader α)) (a : Address) : Access (Option α) := fun m =>
  match readerFor readers (typeAt m a) with
  | none => .ok none
  | some reader => some <$> reader.read (.ofAddress a reader.layout.size) m

theorem follow_null (readers : List (Reader α)) (fuel : Nat) (visited : List Address) {a : Address}
    (m : Contents) (null : a.isNull = true) : follow readers (fuel + 1) visited a m = .ok [] := by
  simp [follow, null, pure, ReaderT.pure, Except.pure]

theorem follow_visited (readers : List (Reader α)) (fuel : Nat) {visited : List Address}
    {a : Address} (m : Contents) (valid : a.isNull = false) (met : a ∈ visited) :
    follow readers (fuel + 1) visited a m = .error (.conversion (.chainCycle a)) := by
  simp [follow, valid, met]
  rfl

theorem visit_apply (readers : List (Reader α)) (a : Address) (m : Contents) :
    (readers.find? (·.structureType == typeAt m a)).mapM
      (fun reader => reader.read (.ofAddress a reader.layout.size)) m = visit readers a m := by
  unfold visit readerFor
  cases readers.find? (·.structureType == typeAt m a) <;> rfl

theorem follow_fresh (readers : List (Reader α)) (fuel : Nat) {visited : List Address}
    {a : Address} (m : Contents) (valid : a.isNull = false) (fresh : a ∉ visited) :
    follow readers (fuel + 1) visited a m =
      (visit readers a m).bind fun item =>
        (follow readers fuel (a :: visited) (linkAt m a) m).map (item.toList ++ ·) := by
  have type : (Segment.ofAddress a header.size).get 0 m = .ok (typeAt m a) :=
    Segment.get_apply _ m (Nat.le_of_ble_eq_true rfl)
  have link : (Segment.ofAddress a header.size).get linkOffset m = .ok (linkAt m a) :=
    Segment.get_apply _ m (Nat.le_of_ble_eq_true rfl)
  simp only [follow, valid, fresh, Bool.false_eq_true, ↓reduceIte, Access.bind_apply, type,
    Except.bind, visit_apply, link]
  cases visit readers a m with
  | error fault => rfl
  | ok item => cases follow readers fuel (a :: visited) (linkAt m a) m <;> rfl

/-- The links of `m` lead from the first address over the nodes of the list to the last one. -/
inductive Path (m : Contents) : Address → List Address → Address → Prop where
  | stop (a : Address) : Path m a [] a
  | node {a z : Address} {as : List Address} (valid : a.isNull = false)
      (rest : Path m (linkAt m a) as z) : Path m a (a :: as) z

def finish (z : Address) (found : List (Option α)) : Except Fault (List α) :=
  if z.isNull then .ok found.reduceOption else .error (.conversion (.chainCycle z))

theorem map_finish (z : Address) (item : Option α) (found : List (Option α)) :
    (finish z found).map (item.toList ++ ·) = finish z (item :: found) := by
  unfold finish
  cases z.isNull with
  | false => rfl
  | true => cases item <;> rfl

theorem follow_of_path {readers : List (Reader α)} {m : Contents} {a z : Address}
    {as : List Address} (path : Path m a as z) {fuel : Nat} {visited : List Address}
    (enough : as.length < fuel) (nodup : as.Nodup) (fresh : ∀ b ∈ as, b ∉ visited)
    (ends : z.isNull = true ∨ z ∈ visited ∨ z ∈ as) :
    follow readers fuel visited a m =
      (as.mapM fun b => visit readers b m).bind (finish z) := by
  induction path generalizing fuel visited with
  | stop a =>
    obtain ⟨fuel, rfl⟩ := Nat.exists_eq_add_one_of_ne_zero (Nat.ne_of_gt enough)
    cases null : a.isNull with
    | true =>
      rw [follow_null readers fuel visited m null]
      simp [finish, null, Except.bind, pure, Except.pure]
    | false =>
      have met : a ∈ visited := by simpa [null] using ends
      rw [follow_visited readers fuel m null met]
      simp [finish, null, Except.bind, pure, Except.pure]
  | @node a z as valid rest ih =>
    obtain ⟨fuel, rfl⟩ := Nat.exists_eq_add_one_of_ne_zero (Nat.ne_of_gt (Nat.zero_lt_of_lt enough))
    have apart := List.nodup_cons.1 nodup
    -- The nodes still to come differ from `a`, so they are as new as before.
    have fresh' : ∀ b ∈ as, b ∉ a :: visited := by
      intro b member
      rw [List.mem_cons, not_or]
      exact ⟨fun same => apart.1 (same ▸ member), fresh b (List.mem_cons_of_mem _ member)⟩
    have ends' : z.isNull = true ∨ z ∈ a :: visited ∨ z ∈ as := by
      simpa [or_assoc, or_left_comm] using ends
    have onward := ih (Nat.lt_of_succ_lt_succ enough) apart.2 fresh' ends'
    rw [follow_fresh readers fuel m valid (fresh a List.mem_cons_self), onward, List.mapM_cons]
    cases visit readers a m with
    | error fault => rfl
    | ok item =>
      cases as.mapM fun b => visit readers b m with
      | error fault => rfl
      | ok found => exact map_finish z item found

theorem length_le_of_nodup {as : List Address} (nodup : as.Nodup) : as.length ≤ UInt64.size := by
  have injective : Function.Injective fun a : Address => a.value.toNat :=
    fun a b same => congrArg Address.mk (UInt64.toNat.inj same)
  have within : as.map (fun a : Address => a.value.toNat) ⊆ List.range UInt64.size := by
    intro n member
    obtain ⟨a, -, rfl⟩ := List.mem_map.1 member
    exact List.mem_range.2 a.value.toNat_lt
  have le := (List.subperm_of_subset (nodup.map injective) within).length_le
  rwa [List.length_map, List.length_range] at le

theorem read_of_path {readers : List (Reader α)} {m : Contents} {head z : Address}
    {as : List Address} (path : Path m head as z) (nodup : as.Nodup)
    (ends : z.isNull = true ∨ z ∈ as) :
    read readers head m = (as.mapM fun a => visit readers a m).bind (finish z) :=
  follow_of_path path (Nat.lt_succ_of_le (length_le_of_nodup nodup)) nodup
    (fun _ _ => List.not_mem_nil) (ends.imp_right .inr)

/-- Where the `i`th link of the chain from `head` leads. -/
def station (m : Contents) (head : Address) (i : Nat) : Address := (linkAt m)^[i] head

/-- Link `k` of the chain from `head` is null or leads back to an earlier node. -/
def Ends (m : Contents) (head : Address) (k : Nat) : Prop :=
  (station m head k).isNull = true ∨ ∃ j < k, station m head j = station m head k

theorem station_succ (m : Contents) (head : Address) (i : Nat) :
    station m head (i + 1) = station m (linkAt m head) i :=
  Function.iterate_succ_apply (linkAt m) i head

instance (m : Contents) (head : Address) (k : Nat) : Decidable (Ends m head k) :=
  inferInstanceAs (Decidable (_ ∨ _))

def stations (m : Contents) (head : Address) (k : Nat) : List Address :=
  (List.range k).map (station m head)

theorem exists_ends (m : Contents) (head : Address) :
    ∃ k, Ends m head k ∧ ∀ i < k, ¬ Ends m head i := by
  have finite : Finite Address :=
    Finite.of_injective (fun a : Address => (⟨a.value.toNat, a.value.toNat_lt⟩ : Fin UInt64.size))
      fun a b same => congrArg Address.mk (UInt64.toNat.inj (Fin.mk.inj same))
  have some : ∃ k, Ends m head k := by
    obtain ⟨i, j, differ, same⟩ := Finite.exists_ne_map_eq_of_infinite (station m head)
    rcases Nat.lt_or_gt_of_ne differ with lt | gt
    · exact ⟨j, .inr ⟨i, lt, same⟩⟩
    · exact ⟨i, .inr ⟨j, gt, same.symm⟩⟩
  classical
  exact ⟨Nat.find some, Nat.find_spec some, fun i before => Nat.find_min some before⟩

theorem path_stations {m : Contents} {head : Address} {k : Nat}
    (valid : ∀ i < k, (station m head i).isNull = false) :
    Path m head (stations m head k) (station m head k) := by
  induction k generalizing head with
  | zero => exact .stop head
  | succ k ih =>
    have onward : stations m head (k + 1) = head :: stations m (linkAt m head) k := by
      simp only [stations, List.range_succ_eq_map, List.map_cons, List.map_map]
      rfl
    have first : head.isNull = false := valid 0 (Nat.zero_lt_succ k)
    have rest : ∀ i < k, (station m (linkAt m head) i).isNull = false := by
      intro i before
      rw [← station_succ]
      exact valid (i + 1) (Nat.succ_lt_succ before)
    rw [onward, station_succ]
    exact .node first (ih rest)

theorem isNull_station {m : Contents} {head : Address} {k : Nat}
    (goes : ∀ i < k, ¬ Ends m head i) : ∀ i < k, (station m head i).isNull = false :=
  fun i before => Bool.eq_false_iff.2 fun null => goes i before (.inl null)

theorem nodup_stations {m : Contents} {head : Address} {k : Nat}
    (goes : ∀ i < k, ¬ Ends m head i) : (stations m head k).Nodup := by
  refine List.Nodup.map_on ?_ List.nodup_range
  intro i inside j inside' same
  rw [List.mem_range] at inside inside'
  rcases Nat.lt_trichotomy i j with lt | equal | gt
  · exact absurd (.inr ⟨i, lt, same⟩) (goes j inside')
  · exact equal
  · exact absurd (.inr ⟨j, gt, same.symm⟩) (goes i inside)

theorem station_mem_stations {m : Contents} {head : Address} {j k : Nat} (before : j < k) :
    station m head j ∈ stations m head k :=
  List.mem_map_of_mem (List.mem_range.2 before)

theorem read_stations (readers : List (Reader α)) {m : Contents} {head : Address} {k : Nat}
    (ends : Ends m head k) (goes : ∀ i < k, ¬ Ends m head i) :
    read readers head m =
      ((stations m head k).mapM fun a => visit readers a m).bind (finish (station m head k)) := by
  refine read_of_path (path_stations (isNull_station goes)) (nodup_stations goes) ?_
  rcases ends with null | ⟨j, before, same⟩
  · exact .inl null
  · exact .inr (same ▸ station_mem_stations before)

/-- Reading a chain ends in any memory, at the first link `k` that is null or leads back. Until
then each node is visited once. The first visit that fails decides the result; where none fails
there are the items in order, or the fault that the chain leads back. -/
theorem read_ends_at_null_or_return (readers : List (Reader α)) (head : Address) (m : Contents) :
    ∃ k, Ends m head k ∧ (∀ i < k, ¬ Ends m head i) ∧
      (stations m head k).Nodup ∧
      read readers head m =
        ((stations m head k).mapM fun a => visit readers a m).bind (finish (station m head k)) ∧
      (∀ i < k, ∀ fault, visit readers (station m head i) m = .error fault →
        (∀ j < i, ∃ item, visit readers (station m head j) m = .ok item) →
          read readers head m = .error fault) ∧
      (∀ items : Nat → Option α,
        (∀ i < k, visit readers (station m head i) m = .ok (items i)) →
          read readers head m =
            if (station m head k).isNull then .ok ((List.range k).filterMap items)
            else .error (.conversion (.chainCycle (station m head k)))) := by
  obtain ⟨k, ends, goes⟩ := exists_ends m head
  have walk := read_stations readers ends goes
  refine ⟨k, ends, goes, nodup_stations goes, walk, ?_, ?_⟩
  · intro i before fault fails earlier
    have visits : (stations m head k).mapM (fun a => visit readers a m) = .error fault := by
      have place : (stations m head k)[i]? = some (station m head i) := by
        simp [stations, before]
      refine Traversal.mapM_eq_error place fails fun j lt a place => ?_
      simp only [stations, List.getElem?_map, List.getElem?_range (lt.trans before),
        Option.map_some, Option.some.injEq] at place
      exact place ▸ earlier j lt
    rw [walk, visits]
    rfl
  · intro items found
    have visits : (stations m head k).mapM (fun a => visit readers a m) =
        .ok ((List.range k).map items) := by
      rw [Traversal.mapM_eq_ok_iff, stations, List.forall₂_map_left_iff,
        List.forall₂_map_right_iff, List.forall₂_same]
      exact fun i inside => found i (List.mem_range.1 inside)
    rw [walk, visits]
    simp only [Except.bind, finish, List.reduceOption, List.filterMap_map, Function.id_comp]

def returning : Contents :=
  ((Contents.zero.write 40 (Scalar.encode (⟨64⟩ : Address))).write 72
    (Scalar.encode (⟨96⟩ : Address))).write 104 (Scalar.encode (⟨64⟩ : Address))

theorem read_returning :
    read [Node.reader 0] ⟨32⟩ returning = .error (.conversion (.chainCycle ⟨64⟩)) := by
  obtain ⟨k, ends, goes, -, -, -, result⟩ :=
    read_ends_at_null_or_return [Node.reader 0] ⟨32⟩ returning
  have three : k = 3 := by
    rcases Nat.lt_trichotomy k 3 with lt | equal | gt
    · have early : ∀ i < 3, ¬ Ends returning ⟨32⟩ i := by decide
      exact absurd ends (early k lt)
    · exact equal
    · exact absurd (by decide) (goes 3 gt)
  subst three
  rw [result (fun _ => some ⟨0, 0, false⟩) (by decide)]
  decide

end Bindwright.Memory.Chain
