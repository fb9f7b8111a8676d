import Bindwright.Proofs.Memory.Arrays
import Bindwright.Proofs.Memory.Allocation
import Bindwright.Proofs.Traversal
import Mathlib.Algebra.GroupWithZero.Nat
import Mathlib.Order.CompletePartialOrder
import Mathlib.Order.Interval.Set.Disjoint

namespace Bindwright.Memory

variable {α : Type}

/-! ## Memory that is taken on the way -/

theorem Segment.span_subset_left (start x y : Nat) :
    (⟨start, x⟩ : Segment).span ⊆ (⟨start, x + y⟩ : Segment).span :=
  Set.Ico_subset_Ico_right (Nat.add_le_add_left (Nat.le_add_right x y) start)

theorem Segment.span_subset_right (start x y : Nat) :
    (⟨start + x, y⟩ : Segment).span ⊆ (⟨start, x + y⟩ : Segment).span :=
  Set.Ico_subset_Ico (Nat.le_add_right start x) (Nat.add_assoc start x y).le

theorem Segment.disjoint_span (start x y : Nat) :
    Disjoint (⟨start, x⟩ : Segment).span (⟨start + x, y⟩ : Segment).span :=
  Set.Ico_disjoint_Ico_same

namespace Arena

/-- There are `need` bytes left to hand out, none of which is a byte of `s`. -/
structure Spares (arena : Arena) (need : Nat) (s : Segment) : Prop where
  apart : Disjoint s.span (Set.Ico arena.top (arena.top + need))
  room : need = 0 ∨ arena.top + need ≤ UInt64.size

def added (before after : Arena) : Set Nat := Set.Ico before.top after.top

structure Changes (before : Arena) (s : Segment) (need : Nat) (after : Arena) : Prop where
  top_le : before.top ≤ after.top
  le_top : after.top ≤ before.top + need
  agree : before.contents.AgreeOn (s.span ∪ before.added after)ᶜ after.contents

variable {before between after : Arena} {s s' : Segment} {need need' : Nat}

theorem Spares.mono (spares : before.Spares need s) (le : need' ≤ need)
    (inside : s'.span ⊆ s.span) : before.Spares need' s' where
  apart := spares.apart.mono inside (Set.Ico_subset_Ico_right (Nat.add_le_add_left le _))
  room := by
    rcases spares.room with none_ | room
    · exact .inl (by omega)
    · exact .inr (by omega)

theorem Spares.of_below (below : s.start + s.length ≤ before.top)
    (room : before.top + need ≤ UInt64.size) : before.Spares need s where
  apart := Set.disjoint_left.2 fun _ inside new =>
    absurd (inside.2.trans_le (below.trans new.1)) (Nat.lt_irrefl _)
  room := .inr room

namespace Changes

theorem refl (arena : Arena) (s : Segment) : arena.Changes s 0 arena :=
  ⟨Nat.le_refl _, Nat.le_refl _, .refl _ _⟩

theorem mono (changes : before.Changes s need after) (inside : s.span ⊆ s'.span) :
    before.Changes s' need after where
  top_le := changes.top_le
  le_top := changes.le_top
  agree := changes.agree.mono (Set.compl_subset_compl.2 (Set.union_subset_union_left _ inside))

theorem trans (first : before.Changes s need between) (second : between.Changes s need' after) :
    before.Changes s (need + need') after where
  top_le := first.top_le.trans second.top_le
  le_top := by
    have := first.le_top
    have := second.le_top
    omega
  agree := by
    have early : before.added between ⊆ before.added after :=
      Set.Ico_subset_Ico_right second.top_le
    have late : between.added after ⊆ before.added after := Set.Ico_subset_Ico_left first.top_le
    exact (first.agree.mono (Set.compl_subset_compl.2 (Set.union_subset_union_right _ early))).trans
      (second.agree.mono (Set.compl_subset_compl.2 (Set.union_subset_union_right _ late)))

theorem spares (changes : before.Changes s need after) (spares : before.Spares (need + need') s') :
    after.Spares need' s' := by
  have le_top := changes.le_top
  have part : Set.Ico after.top (after.top + need') ⊆
      Set.Ico before.top (before.top + (need + need')) :=
    Set.Ico_subset_Ico changes.top_le (by omega)
  refine ⟨spares.apart.mono_right part, ?_⟩
  rcases spares.room with none_ | room
  · exact .inl (by omega)
  · exact .inr (by omega)

theorem rest (changes : before.Changes s' need after) (spares : before.Spares need s) :
    before.contents.AgreeOn (s.span \ s'.span) after.contents := by
  refine changes.agree.mono fun x inside changed => ?_
  rcases changed with written | new
  · exact inside.2 written
  · exact Set.disjoint_left.1 spares.apart inside.1 ⟨new.1, new.2.trans_le changes.le_top⟩

theorem kept (first : before.Changes s need between) (second : between.Changes s' need' after)
    (apart : Disjoint s.span s'.span) (spares : before.Spares (need + need') s)
    (spares' : before.Spares (need + need') s') :
    between.contents.AgreeOn (s.span ∪ before.added between) after.contents := by
  refine second.agree.mono fun x earlier later => ?_
  have le_top := first.le_top
  rcases earlier with written | new
  · rcases later with written' | new'
    · exact Set.disjoint_left.1 apart written written'
    · refine Set.disjoint_left.1 spares.apart written ⟨first.top_le.trans new'.1, ?_⟩
      exact new'.2.trans_le (second.le_top.trans (by omega))
  · rcases later with written' | new'
    · exact Set.disjoint_left.1 spares'.apart written' ⟨new.1, new.2.trans_le (by omega)⟩
    · exact absurd (new.2.trans_le new'.1) (Nat.lt_irrefl x)

end Changes
end Arena

/-! ## Writes that may take memory -/

/-- The write fails as `fault` says, changes its segment only, beside at most `need` new bytes, and
otherwise makes `Held` true, which is a matter of these bytes alone. -/
def Writes (write : Action Unit) (s : Segment) (need : Nat) (fault : Option ConversionError)
    (Held : Contents → Prop) : Prop :=
  ∀ before : Arena, before.Spares need s → ∃ after, write before = (outcome fault, after) ∧
    before.Changes s need after ∧
    (fault = none → ∀ m, after.contents.AgreeOn (s.span ∪ before.added after) m → Held m)

namespace Writes

variable {write write' : Action Unit} {s : Segment} {need need' : Nat}
  {fault fault' : Option ConversionError} {Held Held' : Contents → Prop}

theorem congr (writes : Writes write s need fault Held) (same : ∀ m, Held' m ↔ Held m) :
    Writes write s need fault Held' := by
  have equal : Held' = Held := funext fun m => propext (same m)
  exact equal ▸ writes

theorem nil (s : Segment) : Writes (pure ()) s 0 none fun _ => True :=
  fun before _ => ⟨before, rfl, .refl before s, fun _ _ _ => trivial⟩

theorem of_stores {buffers : List Segment}
    (stores : Stores write s.start (s.start + s.length) fault buffers Held) :
    Writes write s 0 fault Held := by
  intro before _
  obtain ⟨m, run, agree, held⟩ := stores.writes before
  refine ⟨{ before with contents := m }, run, ⟨Nat.le_refl _, Nat.le_refl _, ?_⟩,
    fun none_ m' same => ?_⟩
  · exact agree.mono (Set.compl_subset_compl.2 Set.subset_union_left)
  · exact stores.stable (same.mono Set.subset_union_left) (held none_)

section Adjacent

variable {start x y : Nat}

theorem both {before : Arena} (first : Writes write ⟨start, x⟩ need none Held)
    (second : Writes write' ⟨start + x, y⟩ need' fault Held')
    (spares : before.Spares (need + need') ⟨start, x + y⟩) :
    ∃ between after, write before = (.ok (), between) ∧ write' between = (outcome fault, after) ∧
      before.Changes ⟨start, x + y⟩ (need + need') after ∧
      ∀ m, after.contents.AgreeOn
        ((⟨start, x + y⟩ : Segment).span ∪ before.added after) m →
          Held m ∧ (fault = none → Held' m) := by
  have front := Segment.span_subset_left start x y
  have back := Segment.span_subset_right start x y
  obtain ⟨between, run, changes, held⟩ := first before (spares.mono (Nat.le_add_right _ _) front)
  obtain ⟨after, run', changes', held'⟩ :=
    second between ((changes.spares spares).mono (Nat.le_refl _) back)
  -- Neither the second segment nor what is handed out for it is part of what the first wrote.
  have kept := changes.kept changes' (Segment.disjoint_span start x y)
    (spares.mono (Nat.le_refl _) front) (spares.mono (Nat.le_refl _) back)
  have early : before.added between ⊆ before.added after :=
    Set.Ico_subset_Ico_right changes'.top_le
  have late : between.added after ⊆ before.added after := Set.Ico_subset_Ico_left changes.top_le
  refine ⟨between, after, run, run', (changes.mono front).trans (changes'.mono back),
    fun m agree => ⟨held rfl m ?_, fun none_ => held' none_ m ?_⟩⟩
  · exact kept.trans (agree.mono (Set.union_subset_union front early))
  · exact agree.mono (Set.union_subset_union back late)

theorem seq (first : Writes write ⟨start, x⟩ need fault Held)
    (second : Writes write' ⟨start + x, y⟩ need' fault' Held') :
    Writes (do write; write') ⟨start, x + y⟩ (need + need') (fault.or fault')
      fun m => Held m ∧ Held' m := by
  intro before spares
  cases fault with
  | some e =>
    have front := Segment.span_subset_left start x y
    obtain ⟨between, run, changes, -⟩ := first before (spares.mono (Nat.le_add_right _ _) front)
    have le_top := changes.le_top
    exact ⟨between, Action.bind_error run _,
      ⟨changes.top_le, by omega, (changes.mono front).agree⟩, nofun⟩
  | none =>
    obtain ⟨between, after, run, run', changes, held⟩ := first.both second spares
    exact ⟨after, (Action.bind_ok run _).trans run', changes,
      fun none_ m agree => (held m agree).imp_right fun rest => rest none_⟩

end Adjacent

end Writes

namespace Structure

variable [Structure α] {fault : α → Option ConversionError} {need : α → Nat}

/-- Whether a value can be written to a segment of its size is a matter of the value. It is written
to that segment and to `need` bytes of new memory at most, and is read back as long as these hold
what was written, whatever the rest of memory holds. -/
def Lossless (α : Type) [Structure α] (fault : α → Option ConversionError) (need : α → Nat) : Prop :=
  ∀ (a : α) (s : Segment), s.length = (layout α).size →
    Writes (write a s) s (need a) (fault a) fun m => read s m = .ok a

/-! ## Elements one after another -/

variable (α) in
def element (s : Segment) (i : Nat) : Segment :=
  ⟨s.start + i * (layout α).size, (layout α).size⟩

variable (α) in
def front (s : Segment) (count : Nat) : Segment := ⟨s.start, count * (layout α).size⟩

def writeFrom (start : Nat) : List α → Action Unit
  | [] => pure ()
  | a :: values => do
    write a ⟨start, (layout α).size⟩
    writeFrom (start + (layout α).size) values

theorem forM_row_write (values : List α) (start : Nat) :
    ((Segment.row start (layout α).size values.length).zip values).forM
      (fun p => write p.2 p.1) = writeFrom start values := by
  induction values generalizing start with
  | nil => rfl
  | cons a values ih =>
    rw [List.length_cons, Segment.row_succ, List.zip_cons_cons, writeFrom, ← ih]
    rfl

theorem writeElements_of_length_ne {values : List α} {s : Segment}
    (differ : values.length ≠ s.length / (layout α).size) (arena : Arena) :
    writeElements values s arena = (.error (.conversion
      (.lengthMismatch (s.length / (layout α).size) values.length)), arena) :=
  Slot.array_write_of_length_ne ⟨read, write⟩ values s differ arena

theorem writeElements_of_length_eq {values : List α} {s : Segment}
    (fits : values.length = s.length / (layout α).size) :
    writeElements values s = writeFrom s.start values :=
  (Slot.array_write_of_length_eq ⟨read, write⟩ values s fits).trans (forM_row_write values s.start)

theorem writeFrom_append (earlier later : List α) (start : Nat) :
    writeFrom start (earlier ++ later) = (do
      writeFrom start earlier
      writeFrom (start + earlier.length * (layout α).size) later) := by
  induction earlier generalizing start with
  | nil => simp [writeFrom]
  | cons a earlier ih =>
    have next : start + (earlier.length + 1) * (layout α).size =
        start + (layout α).size + earlier.length * (layout α).size := by
      rw [Nat.succ_mul]
      omega
    rw [List.cons_append, writeFrom, writeFrom, ih, List.length_cons, next, bind_assoc]

theorem writes_writeFrom (law : Lossless α fault need) (values : List α) (start : Nat) :
    Writes (writeFrom start values) ⟨start, values.length * (layout α).size⟩
      (values.map need).sum (values.findSome? fault)
      fun m => (Segment.row start (layout α).size values.length).mapM read m = .ok values := by
  induction values generalizing start with
  | nil => exact (Writes.nil _).congr fun m => iff_true_intro rfl
  | cons a values ih =>
    have both := (law a ⟨start, (layout α).size⟩ rfl).seq (ih (start + (layout α).size))
    rw [List.length_cons, Nat.succ_mul, Nat.add_comm _ (layout α).size, findSome?_cons_eq_or,
      List.map_cons, List.sum_cons, Segment.row_succ]
    exact both.congr fun m => Access.mapM_cons_eq_ok_cons_iff

theorem writeFrom_refused (law : Lossless α fault need) {earlier later : List α} {a : α}
    {e : ConversionError} {start : Nat} {before : Arena} (fine : ∀ b ∈ earlier, fault b = none)
    (refused : fault a = some e)
    (spares : before.Spares ((earlier.map need).sum + need a)
      ⟨start, (earlier.length + 1) * (layout α).size⟩) :
    ∃ between after, writeFrom start earlier before = (.ok (), between) ∧
      write a ⟨start + earlier.length * (layout α).size, (layout α).size⟩ between =
        (.error (.conversion e), after) ∧
      writeFrom start (earlier ++ a :: later) before = (.error (.conversion e), after) ∧
      (Segment.row start (layout α).size earlier.length).mapM read after.contents = .ok earlier ∧
      before.Changes ⟨start, (earlier.length + 1) * (layout α).size⟩
        ((earlier.map need).sum + need a) after := by
  rw [Nat.succ_mul] at spares ⊢
  have none_ : earlier.findSome? fault = none := List.findSome?_eq_none_iff.2 fine
  have first := writes_writeFrom law earlier start
  have second := law a ⟨start + earlier.length * (layout α).size, (layout α).size⟩ rfl
  rw [none_] at first
  rw [refused] at second
  obtain ⟨between, after, run, failed, changes, held⟩ := first.both second spares
  refine ⟨between, after, run, failed, ?_, (held _ (.refl _ _)).1, changes⟩
  rw [writeFrom_append, Action.bind_ok run, writeFrom]
  exact Action.bind_error failed _

end Structure

/-! ## Reading one after another -/

theorem Access.mapM_apply {β : Type} (access : α → Access β) (as : List α) (m : Contents) :
    as.mapM access m = as.mapM fun a => access a m := by
  induction as with
  | nil => rfl
  | cons a as ih =>
    rw [List.mapM_cons, List.mapM_cons, ← ih]
    rfl

namespace Structure

variable [Structure α] {fault : α → Option ConversionError} {need : α → Nat}

theorem readElements_front (positive : 0 < (layout α).size) (s : Segment) (count : Nat)
    (m : Contents) :
    (readElements (front α s count) m : Except Fault (List α)) =
      (Segment.row s.start (layout α).size count).mapM read m := by
  unfold readElements
  rw [Segment.elements_eq_row, front, Nat.mul_div_cancel _ positive]

theorem getElem?_row {s : Segment} {count i : Nat} {e : Segment} :
    (Segment.row s.start (layout α).size count)[i]? = some e ↔ i < count ∧ e = element α s i := by
  rw [Segment.row, List.getElem?_map]
  by_cases below : i < count
  · rw [List.getElem?_range below]
    simp [below, element, eq_comm]
  · rw [List.getElem?_eq_none (by simpa using below)]
    simp [below]

theorem readElements_cases (s : Segment) (m : Contents) :
    (∃ values : List α, readElements s m = .ok values ∧
      values.length = s.length / (layout α).size ∧
      ∀ i < s.length / (layout α).size, ∃ a, values[i]? = some a ∧
        read (element α s i) m = .ok a) ∨
    ∃ i < s.length / (layout α).size, ∃ e,
      (readElements s m : Except Fault (List α)) = .error e ∧
      (read (element α s i) m : Except Fault α) = .error e ∧
      ∀ j < i, ∃ a : α, read (element α s j) m = .ok a := by
  have all : (readElements s m : Except Fault (List α)) =
      (Segment.row s.start (layout α).size (s.length / (layout α).size)).mapM
        fun e => read e m := by
    rw [readElements, Segment.elements_eq_row, Access.mapM_apply]
  cases result : (readElements s m : Except Fault (List α)) with
  | ok values =>
    have each := Traversal.mapM_eq_ok_iff.1 (all.symm.trans result)
    have length := each.length_eq
    rw [Segment.length_row] at length
    refine .inl ⟨values, rfl, length.symm, fun i below => ?_⟩
    have there : i < values.length := length ▸ below
    have read_eq := each.get (by rwa [Segment.length_row]) there
    have place := List.getElem?_eq_getElem (l := Segment.row s.start (layout α).size
      (s.length / (layout α).size)) (i := i) (by rwa [Segment.length_row])
    rw [List.get_eq_getElem, (getElem?_row.1 place).2] at read_eq
    exact ⟨_, List.getElem?_eq_getElem there, read_eq⟩
  | error e =>
    obtain ⟨i, window, place, failed, earlier⟩ :=
      Traversal.exists_first_of_mapM_error (all.symm.trans result)
    obtain ⟨below, rfl⟩ := getElem?_row.1 place
    exact .inr ⟨i, below, e, rfl, failed, fun j before =>
      earlier j before _ (getElem?_row.2 ⟨before.trans below, rfl⟩)⟩

end Structure

/-! ## Texts in memory of their own -/

structure Label where
  text : String

namespace Label

instance : Structure Label where
  layout := ⟨8, 8⟩
  read s := do
    let address : Address ← s.get 0
    return ⟨← (Segment.ofAddress address 16).readText⟩
  write a s := do
    let buffer ← allocate ⟨16, 1⟩
    buffer.writeText a.text
    s.set 0 buffer.address

theorem ofAddress_address {buffer : Segment} (bound : buffer.start < UInt64.size) :
    Segment.ofAddress buffer.address buffer.length = buffer := by
  unfold Segment.ofAddress Segment.address
  rw [UInt64.toNat_ofNat_of_lt' bound]

theorem lossless : Structure.Lossless Label (fun a => textFault 16 a.text) fun _ => 16 := by
  intro a s whole
  change Writes (Structure.write a s) s 16 (textFault 16 a.text) _
  intro before spares
  have room : before.top + 16 ≤ UInt64.size := spares.room.resolve_left (by decide)
  let buffer : Segment := ⟨before.top, 16⟩
  let fresh : Arena :=
    ⟨before.contents.clear before.top 16, before.top + 16, before.allocations + 1⟩
  have made : allocate ⟨16, 1⟩ before = (.ok buffer, fresh) :=
    allocate_of_room (by decide) (by decide) room
  have texts := (Slot.buffer_fills 16).stores buffer rfl a.text
  obtain ⟨m, written, agree, held⟩ := texts.writes fresh
  have cleared : before.contents.AgreeOn buffer.spanᶜ m :=
    Contents.AgreeOn.trans (fun x outside => if_neg outside) agree
  cases fault : textFault 16 a.text with
  | some e =>
    rw [fault] at written
    have failed : Structure.write a s before =
        (.error (.conversion e), { fresh with contents := m }) :=
      (Action.bind_ok made _).trans (Action.bind_error written _)
    refine ⟨{ fresh with contents := m }, failed,
      ⟨Nat.le_add_right _ _, Nat.le_refl _, ?_⟩, nofun⟩
    exact cleared.mono (Set.compl_subset_compl.2 Set.subset_union_right)
  | none =>
    rw [fault] at written
    have link := (Slot.scalar_lawful (α := Address) 0).fills.stores s whole buffer.address
    obtain ⟨m', linked, agree', held'⟩ := link.writes { fresh with contents := m }
    have run : Structure.write a s before = (.ok (), { fresh with contents := m' }) :=
      (Action.bind_ok made _).trans ((Action.bind_ok written _).trans linked)
    have span : Set.Ico s.start (s.start + Scalar.width Address) = s.span :=
      congrArg (fun n => Set.Ico s.start (s.start + n)) whole.symm
    rw [span] at agree'
    refine ⟨{ fresh with contents := m' }, run, ⟨Nat.le_add_right _ _, Nat.le_refl _, ?_⟩,
      fun _ m'' same => ?_⟩
    · exact (cleared.mono (Set.compl_subset_compl.2 Set.subset_union_right)).trans
        (agree'.mono (Set.compl_subset_compl.2 Set.subset_union_left))
    · have address : s.get 0 m'' = .ok buffer.address :=
        link.stable (span ▸ same.mono Set.subset_union_left) (held' rfl)
      -- The address is written beside the text.
      have beside : m.AgreeOn buffer.span m' :=
        agree'.mono (Set.subset_compl_iff_disjoint_left.2 spares.apart)
      have text : buffer.readText m'' = .ok a.text :=
        texts.stable (beside.trans (same.mono Set.subset_union_right)) (held fault)
      have back : Segment.ofAddress buffer.address 16 = buffer :=
        ofAddress_address (show before.top < UInt64.size by omega)
      simp only [Structure.read, Access.bind_eq_ok_iff, Access.pure_eq_ok_iff]
      exact ⟨buffer.address, address, a.text, by rwa [back], rfl⟩

end Label

namespace Structure

variable [Structure α] {fault : α → Option ConversionError} {need : α → Nat}

/-! ## Arrays -/

theorem span_front_subset {s : Segment} {count : Nat} (le : count ≤ s.length / (layout α).size) :
    (front α s count).span ⊆ s.span :=
  Set.Ico_subset_Ico_right (Nat.add_le_add_left (Nat.mul_le_of_le_div _ _ _ le) _)

/-- An array takes as many values as it has elements, up to the first that is refused, and holds
what it takes. Its other elements and what follows the last of them are as they were. -/
theorem structure_arrays_lossless (law : Lossless α fault need) (s : Segment) :
    let count := s.length / (layout α).size
    s.elements (layout α).size = (List.range count).map (element α s) ∧
    (∀ (values : List α) arena, values.length ≠ count →
      writeElements values s arena =
        (.error (.conversion (.lengthMismatch count values.length)), arena)) ∧
    (∀ values arena, values.length = count → (∀ a ∈ values, fault a = none) →
      arena.Spares (values.map need).sum s →
      ∃ after, writeElements values s arena = (.ok (), after) ∧
        readElements s after.contents = .ok values ∧
        arena.Changes (front α s count) (values.map need).sum after ∧
        arena.contents.AgreeOn (s.span \ (front α s count).span) after.contents) ∧
    (∀ earlier a later arena e, (earlier ++ a :: later).length = count →
      (∀ b ∈ earlier, fault b = none) → fault a = some e →
      arena.Spares ((earlier.map need).sum + need a) s →
      ∃ between after,
        writeElements earlier (front α s earlier.length) arena = (.ok (), between) ∧
        write a (element α s earlier.length) between = (.error (.conversion e), after) ∧
        writeElements (earlier ++ a :: later) s arena = (.error (.conversion e), after) ∧
        readElements (front α s earlier.length) after.contents = .ok earlier ∧
        arena.Changes (front α s (earlier.length + 1)) ((earlier.map need).sum + need a) after ∧
        arena.contents.AgreeOn (s.span \ (front α s (earlier.length + 1)).span)
          after.contents) ∧
    ∀ m, (∃ values : List α, readElements s m = .ok values ∧ values.length = count ∧
        ∀ i < count, ∃ a, values[i]? = some a ∧ read (element α s i) m = .ok a) ∨
      ∃ i < count, ∃ e, (readElements s m : Except Fault (List α)) = .error e ∧
        (read (element α s i) m : Except Fault α) = .error e ∧
        ∀ j < i, ∃ a : α, read (element α s j) m = .ok a := by
  intro count
  refine ⟨Segment.elements_eq_row s _, fun values arena differ => ?_,
    fun values arena fits fine spares => ?_,
    fun earlier a later arena e fits fine refused spares => ?_, readElements_cases s⟩
  · exact writeElements_of_length_ne differ arena
  · have inside : (front α s count).span ⊆ s.span := span_front_subset (Nat.le_refl _)
    have writes := writes_writeFrom law values s.start
    rw [fits] at writes
    obtain ⟨after, run, changes, held⟩ := writes arena (spares.mono (Nat.le_refl _) inside)
    have none_ : values.findSome? fault = none := List.findSome?_eq_none_iff.2 fine
    rw [none_, ← writeElements_of_length_eq fits] at run
    refine ⟨after, run, ?_, changes, changes.rest spares⟩
    rw [readElements, Segment.elements_eq_row]
    exact held none_ _ (.refl _ _)
  · have below : earlier.length + 1 ≤ count := by
      rw [← fits, List.length_append, List.length_cons]
      omega
    -- Elements without bytes do not exist, so none of them could have been refused.
    have positive : 0 < (layout α).size := by
      refine Nat.pos_of_ne_zero fun zero => ?_
      simp only [count, zero, Nat.div_zero] at below
      omega
    have inside : (front α s (earlier.length + 1)).span ⊆ s.span := span_front_subset below
    obtain ⟨between, after, run, failed, whole, back, changes⟩ :=
      writeFrom_refused law fine refused (spares.mono (Nat.le_refl _) inside)
    have alone : earlier.length = (front α s earlier.length).length / (layout α).size :=
      (Nat.mul_div_cancel _ positive).symm
    refine ⟨between, after, ?_, failed, ?_, ?_, changes, changes.rest spares⟩
    · rw [writeElements_of_length_eq alone]
      exact run
    · rw [writeElements_of_length_eq fits]
      exact whole
    · rw [readElements_front positive]
      exact back

theorem structure_arrays_lossless_labels :
    let s : Segment := ⟨4096, 20⟩
    let arena : Arena := ⟨.zero, 4120, 1⟩
    Lossless Label (fun a => textFault 16 a.text) (fun _ => 16) ∧ arena.Spares 32 s ∧
    (∃ after, writeElements ([⟨"left"⟩, ⟨"right"⟩] : List Label) s arena = (.ok (), after) ∧
      readElements s after.contents = .ok ([⟨"left"⟩, ⟨"right"⟩] : List Label) ∧
      arena.contents.AgreeOn (s.span \ (⟨4096, 16⟩ : Segment).span) after.contents) ∧
    ∃ after, writeElements ([⟨"left"⟩, ⟨"a longer text than fits"⟩] : List Label) s arena =
        (.error (.conversion (.textTooLong 23 15)), after) ∧
      readElements ⟨4096, 8⟩ after.contents = .ok ([⟨"left"⟩] : List Label) := by
  intro s arena
  have spares : arena.Spares 32 s := .of_below (by decide) (by decide)
  obtain ⟨-, -, taken, refused, -⟩ := structure_arrays_lossless Label.lossless s
  have fine : ∀ a ∈ ([⟨"left"⟩, ⟨"right"⟩] : List Label), textFault 16 a.text = none := by
    intro a member
    rcases List.mem_cons.1 member with rfl | member
    · decide
    · rw [List.mem_singleton.1 member]
      decide
  obtain ⟨after, run, back, -, kept⟩ := taken _ arena (by decide) fine spares
  have both : front Label s (s.length / (layout Label).size) = ⟨4096, 16⟩ := by decide
  rw [both] at kept
  have first : ∀ a ∈ ([⟨"left"⟩] : List Label), textFault 16 a.text = none :=
    fun a member => fine a (List.mem_cons.2 (.inl (List.mem_singleton.1 member)))
  obtain ⟨-, after', -, -, failed, back', -⟩ :=
    refused [⟨"left"⟩] ⟨"a longer text than fits"⟩ [] arena (.textTooLong 23 15) (by decide) first
      (by decide) spares
  exact ⟨Label.lossless, spares, ⟨after, run, back, kept⟩, after', failed, back'⟩

end Structure
end Bindwright.Memory
