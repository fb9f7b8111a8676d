import Bindwright.Proofs.Memory.Windows

/-!
# Operations on segments

`Operation.effect` tells from the bytes of a root alone what an operation on a window of it gives
and which bytes it replaces. In memory the operation does just that and leaves all other bytes as
they are (`Operation.refines`), and so do operations one after another (`Script.refines`). All that
slices and elements lead to is therefore an exact window of the root (`windows_exact`).
-/

namespace Bindwright.Memory

open Segment (Derived)

inductive Operation (root : Segment) : Type → Type 1 where
  | get (α : Type) [Scalar α] (offset : Nat) : Operation root α
  | set {α : Type} [Scalar α] (offset : Nat) (a : α) : Operation root Unit
  | bytes : Operation root (List UInt8)
  -- The source comes from the same root, so both may share bytes.
  | copyFrom {source : Segment} {place : Nat} (derived : Derived root source place) :
    Operation root Unit
  | toList (α : Type) [Scalar α] : Operation root (List α)
  | ofList {α : Type} [Scalar α] (values : List α) : Operation root Unit
  | readText : Operation root String
  | writeText (text : String) : Operation root Unit

abbrev Change := Option (Nat × List UInt8)

def Change.bytes (change : Change) (held : List UInt8) : List UInt8 :=
  match change with
  | some (offset, new) => splice offset new held
  | none => held

def Change.contents (change : Change) (root : Segment) (m : Contents) : Contents :=
  match change with
  | some (offset, new) => m.write (root.start + offset) new
  | none => m

def textOf (bytes : List UInt8) : Except Fault String :=
  match String.fromUTF8? ⟨(bytes.takeWhile (· != 0)).toArray⟩ with
  | some text => .ok text
  | none => .error (.conversion .invalidText)

def Window.refusing (w : Window) : Option ConversionError → Except Fault Window
  | none => .ok w
  | some e => .error (.conversion e)

namespace Operation

variable {root : Segment} {β : Type}

def run : Operation root β → Segment → Action β
  | get α offset, s => liftM (s.get offset : Access α)
  | set offset a, s => s.set offset a
  | bytes, s => liftM s.bytes
  | @copyFrom _ source _ _, s => s.copyFrom source
  | toList α, s => liftM (s.toList α)
  | ofList values, s => s.ofList values
  | readText, s => liftM s.readText
  | writeText text, s => s.writeText text

def put (place : Except Fault Window) (new : List UInt8) : Except Fault Unit × Change :=
  match place with
  | .ok w => (.ok (), some (w.offset, new))
  | .error e => (.error e, none)

/-- The result of an operation on the window `w` of the bytes `held`, and what it changes. -/
def effect : Operation root β → Window → (held : List UInt8) → Except Fault β × Change
  | get α offset, w, held =>
    ((w.part offset (Scalar.width α)).map fun p => Scalar.decode (p.cut held), none)
  | @set _ α _ offset a, w, _ => put (w.part offset (Scalar.width α)) (Scalar.encode a)
  | bytes, w, held => (.ok (w.cut held), none)
  | @copyFrom _ source place _, w, held =>
    put (w.part 0 source.length) (Window.cut ⟨place, source.length⟩ held)
  | toList α, w, held =>
    (.ok ((List.range (w.size / Scalar.width α)).map fun i =>
      Scalar.decode (Window.cut ⟨w.offset + i * Scalar.width α, Scalar.width α⟩ held)), none)
  | @ofList _ α _ values, w, _ =>
    put (w.refusing (countFault (w.size / Scalar.width α) values)) (values.flatMap Scalar.encode)
  | readText, w, held => (textOf (w.cut held), none)
  | writeText text, w, _ =>
    put (w.refusing (textFault w.size text))
      (utf8 text ++ List.replicate (w.size - (utf8 text).length) 0)

def range? : Operation root β → Option Window
  | get α offset => some ⟨offset, Scalar.width α⟩
  | @set _ α _ offset _ => some ⟨offset, Scalar.width α⟩
  | @copyFrom _ source _ _ => some ⟨0, source.length⟩
  | _ => none

end Operation

namespace Window

variable {w p : Window} {offset length : Nat} {e : Fault}

theorem part_eq_ok_iff :
    w.part offset length = .ok p ↔ offset + length ≤ w.size ∧ p = ⟨w.offset + offset, length⟩ := by
  unfold part
  split
  · rename_i room
    simp [room, eq_comm]
  · rename_i room
    exact iff_of_false nofun fun both => room both.1

theorem part_eq_error_iff :
    w.part offset length = .error e ↔
      w.size < offset + length ∧ e = .misuse (.outOfBounds offset length w.size) := by
  unfold part
  split
  · rename_i room
    exact iff_of_false nofun fun both => absurd room both.1.not_ge
  · rename_i room
    simp [Nat.lt_of_not_ge room, eq_comm]

theorem part_misuse_iff {cause : Misuse} :
    w.part offset length = .error (.misuse cause) ↔
      ∃ r : Window, some ⟨offset, length⟩ = some r ∧ w.size < r.offset + r.size ∧
        cause = .outOfBounds r.offset r.size w.size := by
  simp [part_eq_error_iff]

theorem refusing_eq_ok_iff {fault : Option ConversionError} :
    w.refusing fault = .ok p ↔ fault = none ∧ p = w := by
  cases fault with
  | none => simp [refusing, eq_comm]
  | some e => simp [refusing]

theorem refusing_ne_misuse {fault : Option ConversionError} {cause : Misuse} :
    w.refusing fault ≠ .error (.misuse cause) := by
  cases fault with
  | none => exact nofun
  | some e => exact nofun

end Window

theorem length_of_countFault {α : Type} {expected : Nat} {values : List α}
    (counted : countFault expected values = none) : values.length = expected := by
  unfold countFault at counted
  split at counted
  · assumption
  · cases counted

theorem textOf_ne_misuse {bytes : List UInt8} {cause : Misuse} :
    textOf bytes ≠ .error (.misuse cause) := by
  unfold textOf
  split
  · exact nofun
  · exact nofun

namespace Operation

variable {root : Segment} {β : Type} {w : Window}

/-! ## One operation -/

theorem overwrite_part (w : Window) (offset length : Nat) (new : List UInt8) (arena : Arena) :
    ((do
      let window ← (root.at w).slice offset length
      overwrite window.start new) : Action Unit) arena =
        ((put (w.part offset length) new).1, { arena with
          contents := (put (w.part offset length) new).2.contents root arena.contents }) := by
  rw [Segment.slice_at]
  cases w.part offset length with
  | error e => rfl
  | ok p => rfl

theorem get_at {α : Type} [Scalar α] (inside : w.offset + w.size ≤ root.length) (offset : Nat)
    (m : Contents) :
    (root.at w).get offset m = (w.part offset (Scalar.width α)).map fun p =>
      (Scalar.decode (p.cut (root.content m)) : α) := by
  unfold Segment.get
  rw [Segment.slice_at]
  cases place : w.part offset (Scalar.width α) with
  | error e => rfl
  | ok p =>
    obtain ⟨room, rfl⟩ := Window.part_eq_ok_iff.1 place
    have inside' : w.offset + offset + Scalar.width α ≤ root.length := by omega
    have held := Segment.content_at (w := ⟨w.offset + offset, Scalar.width α⟩) m inside'
    exact congrArg (fun held => Except.ok (Scalar.decode held)) held

theorem toList_at {α : Type} [Scalar α] (inside : w.offset + w.size ≤ root.length) (m : Contents) :
    (root.at w).toList α m = .ok ((List.range (w.size / Scalar.width α)).map fun i =>
      Scalar.decode (Window.cut ⟨w.offset + i * Scalar.width α, Scalar.width α⟩
        (root.content m))) := by
  rw [Segment.toList_apply]
  refine congrArg Except.ok (List.map_congr_left fun i member => congrArg Scalar.decode ?_)
  have ends := Nat.mul_le_of_le_div (Scalar.width α) (i + 1) w.size (List.mem_range.1 member)
  rw [Nat.succ_mul] at ends
  have inside' : w.offset + i * Scalar.width α + Scalar.width α ≤ root.length := by omega
  have held := Segment.content_at (w := ⟨w.offset + i * Scalar.width α, Scalar.width α⟩) m inside'
  rw [← held, Segment.content, Segment.start_at, Segment.start_at, Segment.length_at,
    Nat.add_assoc]

theorem readText_at (inside : w.offset + w.size ≤ root.length) (m : Contents) :
    (root.at w).readText m = textOf (w.cut (root.content m)) := by
  rw [← Segment.content_at m inside, textOf, Segment.content, Segment.readText,
    Access.bind_apply]
  have bytes : (root.at w).bytes m = .ok (m.read (root.at w).start (root.at w).length) := rfl
  rw [bytes]
  dsimp only [Except.bind]
  cases String.fromUTF8? _ with
  | none => rfl
  | some text => rfl

theorem copyFrom_at (w : Window) (source : Segment) (arena : Arena) :
    (root.at w).copyFrom source arena =
      let copied := put (w.part 0 source.length) (source.content arena.contents)
      (copied.1, { arena with contents := copied.2.contents root arena.contents }) := by
  unfold Segment.copyFrom
  rw [Segment.slice_at]
  cases w.part 0 source.length with
  | error e => rfl
  | ok p => rfl

theorem ofList_at {α : Type} [Scalar α] (w : Window) (values : List α) (arena : Arena) :
    (root.at w).ofList values arena =
      let stored := put (w.refusing (countFault (w.size / Scalar.width α) values))
        (values.flatMap Scalar.encode)
      (stored.1, { arena with contents := stored.2.contents root arena.contents }) := by
  unfold countFault
  by_cases fits : values.length = w.size / Scalar.width α
  · rw [Segment.ofList_apply _ values arena fits, if_pos fits]
    rfl
  · rw [Segment.ofList_of_length_ne _ values arena fits, if_neg fits]
    rfl

theorem writeText_at (w : Window) (text : String) (arena : Arena) :
    (root.at w).writeText text arena =
      let stored := put (w.refusing (textFault w.size text))
        (utf8 text ++ List.replicate (w.size - (utf8 text).length) 0)
      (stored.1, { arena with contents := stored.2.contents root arena.contents }) := by
  refine (Slot.buffer_write text (root.at w) arena).trans ?_
  rw [Segment.length_at]
  cases textFault w.size text with
  | none => rfl
  | some e => rfl

theorem run_at (op : Operation root β) (inside : w.offset + w.size ≤ root.length) (arena : Arena) :
    op.run (root.at w) arena =
      ((op.effect w (root.content arena.contents)).1, { arena with
        contents :=
          (op.effect w (root.content arena.contents)).2.contents root arena.contents }) := by
  cases op with
  | get α offset => exact congrArg (·, arena) (get_at inside offset arena.contents)
  | @set α _ offset a => exact overwrite_part w offset (Scalar.width α) (Scalar.encode a) arena
  | bytes =>
    have held := Segment.content_at arena.contents inside
    exact congrArg (fun bytes => (Except.ok bytes, arena)) held
  | @copyFrom source place derived =>
    obtain ⟨here, within⟩ := derived.window
    have held := Segment.content_at (w := ⟨place, source.length⟩) arena.contents within
    rw [← here] at held
    rw [effect, ← held]
    exact copyFrom_at w source arena
  | toList α => exact congrArg (·, arena) (toList_at inside arena.contents)
  | ofList values => exact ofList_at w values arena
  | readText => exact congrArg (·, arena) (readText_at inside arena.contents)
  | writeText text => exact writeText_at w text arena

/-! ## What it changes, and what it refuses -/

theorem put_change {place : Except Fault Window} {new bytes : List UInt8} {offset : Nat}
    (changed : (put place new).2 = some (offset, bytes)) :
    ∃ p, place = .ok p ∧ p.offset = offset ∧ new = bytes := by
  cases place with
  | error e => cases changed
  | ok p =>
    cases changed
    exact ⟨p, rfl, rfl, rfl⟩

theorem put_eq_error_iff {place : Except Fault Window} {new : List UInt8} {e : Fault} :
    (put place new).1 = .error e ↔ place = .error e := by
  cases place with
  | error e' => simp [put]
  | ok p => simp [put]

theorem put_of_error {place : Except Fault Window} {new : List UInt8} {e : Fault}
    (failed : (put place new).1 = .error e) : (put place new).2 = none := by
  rw [put_eq_error_iff] at failed
  rw [failed]
  rfl

theorem change_inside (op : Operation root β) {held new : List UInt8} {offset : Nat}
    (changed : (op.effect w held).2 = some (offset, new)) :
    w.offset ≤ offset ∧ offset + new.length ≤ w.offset + w.size := by
  cases op with
  | get | bytes | toList | readText => cases changed
  | set place a =>
    obtain ⟨p, part, rfl, rfl⟩ := put_change changed
    obtain ⟨room, rfl⟩ := Window.part_eq_ok_iff.1 part
    rw [Scalar.length_encode]
    dsimp only
    omega
  | copyFrom derived =>
    obtain ⟨p, part, rfl, rfl⟩ := put_change changed
    obtain ⟨room, rfl⟩ := Window.part_eq_ok_iff.1 part
    rw [Window.cut, List.length_take]
    dsimp only
    omega
  | @ofList α _ values =>
    obtain ⟨p, place, rfl, rfl⟩ := put_change changed
    obtain ⟨counted, rfl⟩ := Window.refusing_eq_ok_iff.1 place
    have whole : p.size / Scalar.width α * Scalar.width α ≤ p.size := Nat.div_mul_le_self ..
    rw [Segment.length_flatMap_encode, length_of_countFault counted]
    omega
  | writeText text =>
    obtain ⟨p, place, rfl, rfl⟩ := put_change changed
    obtain ⟨accepted, rfl⟩ := Window.refusing_eq_ok_iff.1 place
    have room := (textFault_eq_none_iff.1 accepted).2
    rw [List.length_append, List.length_replicate]
    omega

theorem unchanged_of_error (op : Operation root β) {held : List UInt8} {e : Fault}
    (failed : (op.effect w held).1 = .error e) : (op.effect w held).2 = none := by
  cases op with
  | get | bytes | toList | readText => rfl
  | set | copyFrom | ofList | writeText => exact put_of_error failed

theorem misuse_iff (op : Operation root β) {held : List UInt8} {cause : Misuse} :
    (op.effect w held).1 = .error (.misuse cause) ↔
      ∃ r, op.range? = some r ∧ w.size < r.offset + r.size ∧
        cause = .outOfBounds r.offset r.size w.size := by
  cases op with
  | get _ offset =>
    refine Iff.trans ?_ Window.part_misuse_iff
    rw [effect]
    cases w.part offset (Scalar.width β) with
    | error e => simp [Except.map]
    | ok p => simp [Except.map]
  | set offset a => exact put_eq_error_iff.trans Window.part_misuse_iff
  | copyFrom derived => exact put_eq_error_iff.trans Window.part_misuse_iff
  | bytes | toList => exact iff_of_false nofun nofun
  | readText => exact iff_of_false textOf_ne_misuse nofun
  | ofList | writeText =>
    exact iff_of_false (fun failed => Window.refusing_ne_misuse (put_eq_error_iff.1 failed)) nofun

theorem refines {s : Segment} {offset : Nat} (derived : Derived root s offset)
    (op : Operation root β) (arena : Arena) :
    let held := root.content arena.contents
    let effect := op.effect ⟨offset, s.length⟩ held
    ∃ m, op.run s arena = (effect.1, { arena with contents := m }) ∧
      root.content m = effect.2.bytes held ∧ arena.contents.AgreeOn s.spanᶜ m := by
  intro held effect
  obtain ⟨place, inside⟩ := derived.window
  have run := op.run_at (w := ⟨offset, s.length⟩) inside arena
  rw [← place] at run
  refine ⟨_, run, ?_⟩
  change root.content (effect.2.contents root arena.contents) = _ ∧ _
  cases changed : effect.2 with
  | none => exact ⟨rfl, .refl _ _⟩
  | some change =>
    obtain ⟨first, new⟩ := change
    obtain ⟨above, below⟩ := op.change_inside changed
    dsimp only at above below
    refine ⟨Segment.content_write arena.contents (by omega), ?_⟩
    refine (arena.contents.agreeOn_write (root.start + first) new).mono ?_
    rw [place]
    refine Set.compl_subset_compl.2 (Set.Ico_subset_Ico ?_ ?_)
    · exact Nat.add_le_add_left above _
    · dsimp only [Segment.at]
      omega

end Operation

/-! ## One operation after another -/

/-- Operations on what is derived from a root. The result of each settles what comes next. -/
inductive Script (root : Segment) (γ : Type) : Type 1 where
  | done (c : γ) : Script root γ
  | step {β : Type} {s : Segment} {offset : Nat} (derived : Derived root s offset)
    (op : Operation root β) (next : Except Fault β → Script root γ) : Script root γ

namespace Script

variable {root : Segment} {γ : Type}

def run : Script root γ → Arena → γ × Arena
  | done c, arena => (c, arena)
  | @step _ _ _ s _ _ op next, arena => (next (op.run s arena).1).run (op.run s arena).2

def on : Script root γ → (held : List UInt8) → γ × List UInt8
  | done c, held => (c, held)
  | @step _ _ _ s offset _ op next, held =>
    let effect := op.effect ⟨offset, s.length⟩ held
    (next effect.1).on (effect.2.bytes held)

theorem refines (script : Script root γ) (arena : Arena) :
    let after := script.on (root.content arena.contents)
    ∃ m, script.run arena = (after.1, { arena with contents := m }) ∧
      root.content m = after.2 ∧ arena.contents.AgreeOn root.spanᶜ m := by
  induction script generalizing arena with
  | done c => exact ⟨arena.contents, rfl, rfl, .refl _ _⟩
  | @step β s offset derived op next ih =>
    -- What follows starts from the bytes that `op` leaves; the rest of the arena is as before.
    obtain ⟨m, run, held, agree⟩ := op.refines derived arena
    obtain ⟨m', run', held', agree'⟩ := ih _ { arena with contents := m }
    refine ⟨m', ?_, ?_, ?_⟩
    · rw [Script.run, run, run', held]
      rfl
    · rw [held', held]
      rfl
    · refine (agree.mono ?_).trans agree'
      exact Set.compl_subset_compl.2 derived.span_subset

end Script

/-! ## Exactness -/

/-- `s` is the window at `offset` in `root`, and no more than that: what is done with it is done
with these bytes of the root. -/
structure ExactWindow (root s : Segment) (offset : Nat) : Prop where
  place : s = root.at ⟨offset, s.length⟩
  inside : offset + s.length ≤ root.length
  refines : ∀ {β : Type} (op : Operation root β) (arena : Arena),
    let held := root.content arena.contents
    let effect := op.effect ⟨offset, s.length⟩ held
    ∃ m, op.run s arena = (effect.1, { arena with contents := m }) ∧
      root.content m = effect.2.bytes held ∧ arena.contents.AgreeOn s.spanᶜ m
  misuse : ∀ {β : Type} (op : Operation root β) (arena : Arena) (cause : Misuse),
    (op.run s arena).1 = .error (.misuse cause) ↔
      ∃ r, op.range? = some r ∧ s.length < r.offset + r.size ∧
        cause = .outOfBounds r.offset r.size s.length
  failed : ∀ {β : Type} (op : Operation root β) (arena : Arena) (e : Fault),
    (op.run s arena).1 = .error e → op.run s arena = (.error e, arena)
  slice : ∀ place length, s.slice place length =
    if place + length ≤ s.length then .ok (root.at ⟨offset + place, length⟩)
    else .error (.misuse (.outOfBounds place length s.length))
  slice_isOk : ∀ place length : UInt64, (s.slice place.toNat length.toNat).isOk =
    (checkedAdd place length).any fun last => last.toNat ≤ s.length
  slice_slice : ∀ {place length place' length'}, place + length ≤ s.length →
    place' + length' ≤ length →
      (do (← s.slice place length).slice place' length') = s.slice (place + place') length'
  elements : ∀ stride < UInt64.size, ∀ e, Segment.Elements.ComesTo ⟨s, stride, 0⟩ e →
    e.offset + e.stride < UInt64.size
  get_set : ∀ {α : Type} [Scalar α] (place : Nat) (a : α) (arena : Arena),
    place + Scalar.width α ≤ s.length →
      ((do s.set place a; s.get (α := α) place) : Action α) arena =
        (.ok a, (s.set place a arena).2)
  copyFrom : ∀ (source : Segment) (arena : Arena), source.length ≤ s.length →
    ∃ m, s.copyFrom source arena = (.ok (), { arena with contents := m }) ∧
      m.read s.start source.length = source.content arena.contents ∧
      arena.contents.AgreeOn (Set.Ico s.start (s.start + source.length))ᶜ m
  copyFrom_longer : ∀ (source : Segment) (arena : Arena), s.length < source.length →
    s.copyFrom source arena =
      (.error (.misuse (.outOfBounds 0 source.length s.length)), arena)

namespace Segment

variable {root s : Segment} {offset : Nat}

theorem copyFrom_apply (s source : Segment) (arena : Arena) :
    s.copyFrom source arena =
      if source.length ≤ s.length then
        (.ok (), { arena with
          contents := arena.contents.write s.start (source.content arena.contents) })
      else (.error (.misuse (.outOfBounds 0 source.length s.length)), arena) := by
  unfold copyFrom slice
  rw [Nat.zero_add]
  by_cases room : source.length ≤ s.length
  · rw [if_pos room, if_pos room]
    rfl
  · rw [if_neg room, if_neg room]
    rfl

theorem get_set {α : Type} [Scalar α] (s : Segment) {place : Nat} (a : α) (arena : Arena)
    (room : place + Scalar.width α ≤ s.length) :
    ((do s.set place a; s.get (α := α) place) : Action α) arena =
      (.ok a, (s.set place a arena).2) := by
  have stores := (Slot.scalar_lawful (α := α) place).stores s room a
  obtain ⟨m, run, -, held⟩ := stores.writes arena
  have set : s.set place a arena = (.ok (), { arena with contents := m }) := run
  rw [set]
  exact (Action.bind_ok set _).trans (Action.lift_apply (held rfl))

theorem Derived.exactWindow (derived : Derived root s offset) (small : root.length ≤ maximalBlock) :
    ExactWindow root s offset where
  place := derived.window.1
  inside := derived.window.2
  refines op arena := op.refines derived arena
  misuse op arena cause := by
    obtain ⟨m, run, -⟩ := op.refines derived arena
    rw [run]
    exact op.misuse_iff
  failed op arena e failed := by
    obtain ⟨place, inside⟩ := derived.window
    have run := op.run_at (w := ⟨offset, s.length⟩) inside arena
    rw [← place] at run
    rw [run] at failed ⊢
    rw [op.unchanged_of_error failed, failed]
    rfl
  slice place length := by
    rw [derived.window.1, slice_at, Window.part]
    split
    · rename_i room
      exact (if_pos room).symm
    · rename_i room
      exact (if_neg room).symm
  slice_isOk place length := by
    have inside := derived.window.2
    have word := maximalBlock_add_self_lt
    exact slice_checked s (by omega) place length
  slice_slice room room' := by
    rw [slice_eq_ok_iff.2 ⟨room, rfl⟩]
    exact slice_slice (slice_eq_ok_iff.2 ⟨room, rfl⟩) room'
  elements stride word e reached := by
    have inside := derived.window.2
    exact reached.fits (by omega) word
  get_set place a arena room := s.get_set a arena room
  copyFrom source arena room := by
    have agree := arena.contents.agreeOn_write s.start (source.content arena.contents)
    have back := arena.contents.read_write_self s.start (source.content arena.contents)
    rw [length_content] at agree back
    exact ⟨_, (s.copyFrom_apply source arena).trans (if_pos room), back, agree⟩
  copyFrom_longer source arena long :=
    (s.copyFrom_apply source arena).trans (if_neg long.not_ge)

end Segment

theorem windows_exact (root : Segment) (small : root.length ≤ maximalBlock) :
    (∀ s offset, Derived root s offset → ExactWindow root s offset) ∧
    ∀ {γ : Type} (script : Script root γ) (arena : Arena),
      let after := script.on (root.content arena.contents)
      ∃ m, script.run arena = (after.1, { arena with contents := m }) ∧
        root.content m = after.2 ∧ arena.contents.AgreeOn root.spanᶜ m :=
  ⟨fun _ _ derived => derived.exactWindow small, fun script arena => script.refines arena⟩

theorem windows_exact_element :
    let root : Segment := ⟨4096, 8⟩
    let element : Segment := ⟨4100, 2⟩
    root.length ≤ maximalBlock ∧ Derived root element 4 ∧
      element.set 1 (7 : UInt16) Arena.empty =
        (.error (.misuse (.outOfBounds 1 2 2)), Arena.empty) ∧
      ∃ m, element.set 0 (258 : UInt16) Arena.empty =
          (.ok (), { Arena.empty with contents := m }) ∧
        root.content m = [0, 0, 0, 0, 2, 1, 0, 0] := by
  intro root element
  have small : root.length ≤ maximalBlock := by decide
  have sliced : root.slice 2 6 = .ok ⟨4098, 6⟩ := Segment.slice_eq_ok_iff.2 ⟨by decide, rfl⟩
  have listed : (Segment.elements ⟨4098, 6⟩ 2)[1]? = some element := by
    rw [Segment.getElem?_elements]
    decide
  have derived : Derived root element 4 := .element (.slice .root sliced) listed
  have exactly := (windows_exact root small).1 element 4 derived
  have outside := (exactly.misuse (.set 1 (7 : UInt16)) Arena.empty (.outOfBounds 1 2 2)).2
    ⟨⟨1, 2⟩, rfl, by decide, rfl⟩
  obtain ⟨m, run, held, -⟩ := exactly.refines (.set 0 (258 : UInt16)) Arena.empty
  exact ⟨small, derived, exactly.failed _ _ _ outside, m, run, held.trans (by decide)⟩

end Bindwright.Memory
