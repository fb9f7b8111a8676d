import Bindwright.Proofs.Memory.Stores
import Mathlib.Data.List.Nodup

namespace Bindwright.Memory

variable {α β : Type}

@[simp] theorem Access.bind_eq_ok_iff {access : Access α} {next : α → Access β} {m : Contents}
    {b : β} :
    (access >>= next) m = .ok b ↔ ∃ a, access m = .ok a ∧ next a m = .ok b := by
  rw [Access.bind_apply]
  cases access m with
  | error e => exact ⟨nofun, nofun⟩
  | ok a => exact ⟨fun h => ⟨a, rfl, h⟩, fun ⟨_, same, h⟩ => Except.ok.inj same ▸ h⟩

@[simp] theorem Access.pure_eq_ok_iff {a b : α} {m : Contents} :
    (pure a : Access α) m = .ok b ↔ a = b :=
  ⟨Except.ok.inj, congrArg Except.ok⟩

@[simp] theorem Access.map_eq_ok_iff {f : α → β} {access : Access α} {m : Contents} {b : β} :
    (f <$> access) m = .ok b ↔ ∃ a, access m = .ok a ∧ f a = b := by
  rw [map_eq_pure_bind]
  simp only [bind_eq_ok_iff, pure_eq_ok_iff]

theorem Access.mapM_cons_eq_ok_iff {access : α → Access β} {a : α} {as : List α} {m : Contents}
    {bs : List β} :
    (a :: as).mapM access m = .ok bs ↔
      ∃ b bs', access a m = .ok b ∧ as.mapM access m = .ok bs' ∧ b :: bs' = bs := by
  rw [List.mapM_cons]
  simp only [Access.bind_eq_ok_iff, Access.pure_eq_ok_iff, exists_and_left]

theorem Access.mapM_cons_eq_ok_cons_iff {access : α → Access β} {a : α} {as : List α}
    {m : Contents} {b : β} {bs : List β} :
    (a :: as).mapM access m = .ok (b :: bs) ↔ access a m = .ok b ∧ as.mapM access m = .ok bs := by
  rw [mapM_cons_eq_ok_iff]
  constructor
  · rintro ⟨b', bs', head, tail, same⟩
    obtain ⟨rfl, rfl⟩ := List.cons.inj same
    exact ⟨head, tail⟩
  · exact fun ⟨head, tail⟩ => ⟨b, bs, head, tail, rfl⟩

theorem Access.length_of_mapM {access : α → Access β} {as : List α} {m : Contents} {bs : List β}
    (read : as.mapM access m = .ok bs) : bs.length = as.length := by
  induction as generalizing bs with
  | nil =>
    rw [List.mapM_nil, Access.pure_eq_ok_iff] at read
    rw [← read, List.length_nil, List.length_nil]
  | cons a as ih =>
    obtain ⟨b, bs', -, tail, rfl⟩ := Access.mapM_cons_eq_ok_iff.1 read
    rw [List.length_cons, List.length_cons, ih tail]

namespace Slot

/-- The slot is the window of `size` bytes at `offset`. `fault` says which values it refuses, and
`texts` where it holds text. -/
structure Lawful (slot : Slot α) (offset size : Nat) (fault : α → Option ConversionError)
    (texts : List Window) : Prop where
  inside : ∀ w ∈ texts, offset ≤ w.offset ∧ w.offset + w.size ≤ offset + size
  stores : ∀ s : Segment, offset + size ≤ s.length → ∀ a,
    Stores (slot.write a s) (s.start + offset) (s.start + offset + size) (fault a)
      (texts.map s.at) fun m => slot.read s m = .ok a

structure Fills (slot : Slot α) (size : Nat) (fault : α → Option ConversionError)
    (texts : List Window) : Prop where
  inside : ∀ w ∈ texts, w.offset + w.size ≤ size
  stores : ∀ s : Segment, s.length = size → ∀ a,
    Stores (slot.write a s) s.start (s.start + size) (fault a) (texts.map s.at)
      fun m => slot.read s m = .ok a

theorem Lawful.fills {slot : Slot α} {size : Nat} {fault : α → Option ConversionError}
    {texts : List Window} (law : slot.Lawful 0 size fault texts) :
    slot.Fills size fault texts where
  inside w member := by
    have ends := (law.inside w member).2
    rwa [Nat.zero_add] at ends
  stores s whole a := by
    have stores := law.stores s (by rw [whole, Nat.zero_add]) a
    rwa [Nat.add_zero] at stores

theorem scalar_lawful [Scalar α] (offset : Nat) :
    (scalar α offset).Lawful offset (Scalar.width α) (fun _ => none) [] := by
  refine ⟨nofun, fun s room a => ?_⟩
  have get (m : Contents) : s.get offset m = .ok (Scalar.decode
      (m.read (s.start + offset) (Scalar.width α)) : α) := Segment.get_apply s m room
  refine ⟨Nat.le_add_right _ _, nofun, fun {m m'} agree held => ?_, fun arena => ?_,
    fun arena held => ?_⟩
  · change s.get offset m' = _
    rw [get, agree.read_congr, ← get]
    exact held
  · have agree := arena.contents.agreeOn_write (s.start + offset) (Scalar.encode a)
    have back := arena.contents.read_write_self (s.start + offset) (Scalar.encode a)
    rw [Scalar.length_encode] at agree back
    refine ⟨_, Segment.set_apply s a arena room, agree, fun _ => ?_⟩
    change s.get offset _ = _
    rw [get, back, Scalar.decode_encode]
  · have value := Except.ok.inj ((get arena.contents).symm.trans held)
    have same : arena.contents.write (s.start + offset) (Scalar.encode a) = arena.contents := by
      rw [← value, Scalar.encode_decode (Contents.length_read ..), Contents.write_read_self]
    change Rewritten [] arena (s.set offset a arena)
    rw [Segment.set_apply s a arena room, same]
    exact (Stores.nil s.start).rewrites arena trivial

theorem Lawful.coded {slot : Slot α} {base : Slot β} {offset size : Nat}
    {fault : β → Option ConversionError} {texts : List Window}
    (law : base.Lawful offset size fault texts) (code : α → β)
    (write : ∀ a s, slot.write a s = base.write (code a) s)
    (read : ∀ s m a, slot.read s m = .ok a ↔ base.read s m = .ok (code a)) :
    slot.Lawful offset size (fun a => fault (code a)) texts := by
  refine ⟨law.inside, fun s room a => ?_⟩
  rw [write]
  exact (law.stores s room (code a)).congr fun m => read s m a

theorem flags_lawful [BitFlag α] (offset : Nat) :
    (flags α offset).Lawful offset 4 (fun _ => none) [] := by
  refine (scalar_lawful (α := UInt32) offset).coded FlagSet.bits (fun _ _ => rfl) ?_
  intro s m ⟨bits⟩
  simp only [flags, scalar, Access.bind_eq_ok_iff, Access.pure_eq_ok_iff, FlagSet.mk.injEq,
    exists_eq_right]

end Slot

theorem Access.lift_eq_ok_iff {result : Except ConversionError α} {m : Contents} {a : α} :
    (liftM result : Access α) m = .ok a ↔ result = .ok a := by
  cases result with
  | error e => exact ⟨nofun, nofun⟩
  | ok b => exact ⟨fun h => congrArg _ (Except.ok.inj h), fun h => congrArg _ (Except.ok.inj h)⟩

theorem find?_value_eq_some_iff {γ : Type} [BEq γ] [LawfulBEq γ] {values : List α} {value : α → γ}
    (complete : ∀ a, a ∈ values) (distinct : (values.map value).Nodup) {c : γ} {a : α} :
    values.find? (value · == c) = some a ↔ c = value a := by
  have named {b : α} (found : values.find? (value · == c) = some b) : value b = c :=
    eq_of_beq (List.find?_some (p := fun b => value b == c) found)
  constructor
  · exact fun found => (named found).symm
  · intro same
    cases found : values.find? (value · == c) with
    | none => exact absurd (beq_iff_eq.2 same.symm) (List.find?_eq_none.1 found a (complete a))
    | some b =>
      rw [List.inj_on_of_nodup_map distinct (complete b) (complete a) ((named found).trans same)]

theorem Enumeration.ofValue_eq_ok_iff [Enumeration α]
    (complete : ∀ a : α, a ∈ (Enumerated.all : List α))
    (distinct : ((Enumerated.all : List α).map value).Nodup) {n : Int32} {a : α} :
    ofValue n = .ok a ↔ n = value a := by
  rw [← find?_value_eq_some_iff complete distinct]
  unfold ofValue
  cases (Enumerated.all : List α).find? (value · == n) <;> simp

theorem BitFlag.ofBit_eq_ok_iff [BitFlag α]
    (complete : ∀ a : α, a ∈ (Enumerated.all : List α))
    (distinct : ((Enumerated.all : List α).map bit).Nodup) {n : UInt32} {a : α} :
    ofBit n = .ok a ↔ n = bit a := by
  rw [← find?_value_eq_some_iff complete distinct]
  unfold ofBit ofBitNamed ofBit?
  cases (Enumerated.all : List α).find? (bit · == n) <;> simp

namespace Slot

theorem enumerator_lawful [Enumeration α] (offset : Nat)
    (complete : ∀ a : α, a ∈ (Enumerated.all : List α))
    (distinct : ((Enumerated.all : List α).map Enumeration.value).Nodup) :
    (enumerator α offset).Lawful offset 4 (fun _ => none) [] := by
  refine (scalar_lawful (α := Int32) offset).coded Enumeration.value (fun _ _ => rfl) ?_
  intro s m a
  simp only [enumerator, scalar, Access.bind_eq_ok_iff, Access.lift_eq_ok_iff,
    Enumeration.ofValue_eq_ok_iff complete distinct, exists_eq_right]

theorem oneFlag_lawful [BitFlag α] (offset : Nat)
    (complete : ∀ a : α, a ∈ (Enumerated.all : List α))
    (distinct : ((Enumerated.all : List α).map BitFlag.bit).Nodup) :
    (oneFlag α offset).Lawful offset 4 (fun _ => none) [] := by
  refine (scalar_lawful (α := UInt32) offset).coded BitFlag.bit (fun _ _ => rfl) ?_
  intro s m a
  simp only [oneFlag, scalar, Access.bind_eq_ok_iff, Access.lift_eq_ok_iff,
    BitFlag.ofBit_eq_ok_iff complete distinct, exists_eq_right]

def within (inner : Slot α) (offset length : Nat) : Slot α where
  read s := do inner.read (← s.slice offset length)
  write a s := do inner.write a (← s.slice offset length)

theorem within_lawful {inner : Slot α} {size : Nat} {fault : α → Option ConversionError}
    {texts : List Window} (fills : inner.Fills size fault texts) (offset : Nat) :
    (inner.within offset size).Lawful offset size fault (texts.map (.shift offset)) := by
  refine ⟨fun w member => ?_, fun s room a => ?_⟩
  · obtain ⟨w', member', rfl⟩ := List.mem_map.1 member
    have ends := fills.inside w' member'
    simp only [Window.shift]
    omega
  have slice : s.slice offset size = .ok ⟨s.start + offset, size⟩ := if_pos room
  have write : (inner.within offset size).write a s = inner.write a ⟨s.start + offset, size⟩ := by
    simp only [within, slice]
    rfl
  have read : (inner.within offset size).read s = inner.read ⟨s.start + offset, size⟩ := by
    simp only [within, slice]
    rfl
  have places : (texts.map (.shift offset)).map s.at =
      texts.map (Segment.at ⟨s.start + offset, size⟩) := by
    rw [List.map_map]
    refine List.map_congr_left fun w _ => ?_
    simp only [Function.comp_apply, Segment.at, Window.shift, Nat.add_assoc]
  rw [write, places, read]
  exact fills.stores ⟨s.start + offset, size⟩ rfl a

end Slot
end Bindwright.Memory
