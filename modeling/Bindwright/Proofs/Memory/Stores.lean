import Bindwright.Proofs.Memory.Footprint
import Bindwright.Memory.Record

namespace Bindwright.Memory

structure Window where
  offset : Nat
  size : Nat
  deriving DecidableEq, Repr

def Window.shift (offset : Nat) (w : Window) : Window := ⟨offset + w.offset, w.size⟩

def Segment.at (s : Segment) (w : Window) : Segment := ⟨s.start + w.offset, w.size⟩

namespace Contents

def Terminated (m : Contents) (b : Segment) : Prop := 0 ∈ m.read b.start b.length

def AfterText (m : Contents) (b : Segment) (x : Nat) : Prop :=
  b.start ≤ x ∧ x < b.start + b.length ∧ 0 ∈ m.read b.start (x - b.start)

instance (m : Contents) (b : Segment) : Decidable (m.Terminated b) :=
  inferInstanceAs (Decidable (_ ∈ _))

instance (m : Contents) (b : Segment) (x : Nat) : Decidable (m.AfterText b x) :=
  inferInstanceAs (Decidable (_ ∧ _))

/-- Memory with zeros after the texts in `buffers`. -/
def trimmed (m : Contents) (buffers : List Segment) : Contents :=
  ⟨fun x => if ∃ b ∈ buffers, m.AfterText b x then 0 else m.byte x⟩

theorem ext {m m' : Contents} (same : ∀ x, m.byte x = m'.byte x) : m = m' :=
  congrArg Contents.mk (funext same)

@[simp] theorem trimmed_nil (m : Contents) : m.trimmed [] = m := by
  simp [trimmed]

theorem mem_read_iff {m : Contents} {start length : Nat} {b : UInt8} :
    b ∈ m.read start length ↔ ∃ x, start ≤ x ∧ x < start + length ∧ m.byte x = b := by
  simp only [read, List.mem_map, List.mem_range]
  constructor
  · rintro ⟨i, within, rfl⟩
    exact ⟨start + i, Nat.le_add_right _ _, Nat.add_lt_add_left within _, rfl⟩
  · rintro ⟨x, above, below, rfl⟩
    exact ⟨x - start, by omega, congrArg m.byte (by omega)⟩

theorem write_read_self (m : Contents) (start length : Nat) :
    m.write start (m.read start length) = m := by
  apply ext
  intro x
  rw [byte_write]
  split
  · by_cases within : x - start < length
    · rw [getElem?_read m within, Option.getD_some]
      congr 1
      omega
    · rw [List.getElem?_eq_none (by rw [length_read]; omega), Option.getD_none]
  · rfl

end Contents

namespace Contents.AgreeOn

variable {m m' : Contents} {b : Segment}

theorem terminated_iff (agree : AgreeOn b.span m m') : m'.Terminated b ↔ m.Terminated b := by
  unfold Contents.Terminated
  rw [agree.read_congr]

theorem afterText_iff (agree : AgreeOn b.span m m') (x : Nat) :
    m'.AfterText b x ↔ m.AfterText b x := by
  unfold Contents.AfterText
  refine and_congr_right fun above => and_congr_right fun below => ?_
  have part : Set.Ico b.start (b.start + (x - b.start)) ⊆ b.span :=
    Set.Ico_subset_Ico_right (by omega)
  rw [(agree.mono part).read_congr]

end Contents.AgreeOn

theorem Contents.agreeOn_trimmed (m : Contents) {buffers : List Segment} {region : Set Nat}
    (inside : ∀ b ∈ buffers, b.span ⊆ region) : m.AgreeOn regionᶜ (m.trimmed buffers) := by
  intro x outside
  refine if_neg ?_
  rintro ⟨b, member, above, below, -⟩
  exact outside (inside b member ⟨above, below⟩)

theorem Contents.trimmed_append {m : Contents} {buffers buffers' : List Segment} {region : Set Nat}
    (inside : ∀ b ∈ buffers, b.span ⊆ regionᶜ) (inside' : ∀ b ∈ buffers', b.span ⊆ region) :
    (m.trimmed buffers).trimmed buffers' = m.trimmed (buffers ++ buffers') := by
  have agree := m.agreeOn_trimmed inside
  rw [compl_compl] at agree
  apply Contents.ext
  intro x
  have later : (∃ b ∈ buffers', (m.trimmed buffers).AfterText b x) ↔
      ∃ b ∈ buffers', m.AfterText b x :=
    exists_congr fun b => and_congr_right fun member =>
      (agree.mono (inside' b member)).afterText_iff x
  change (if ∃ b ∈ buffers', (m.trimmed buffers).AfterText b x then 0 else
    if ∃ b ∈ buffers, m.AfterText b x then 0 else m.byte x) = if _ then 0 else m.byte x
  simp only [later, List.mem_append, or_and_right, exists_or]
  by_cases earlier : ∃ b ∈ buffers, m.AfterText b x
  · simp [earlier]
  · simp [earlier]

def outcome : Option ConversionError → Except Fault Unit
  | none => .ok ()
  | some e => .error (.conversion e)

/-- What comes of writing back what was read: every text is followed by zeros and all else is as
before, unless a buffer has no zero byte. The first such buffer is at fault then. -/
inductive Rewritten (buffers : List Segment) (before : Arena) : Except Fault Unit × Arena → Prop where
  | kept (ended : ∀ b ∈ buffers, before.contents.Terminated b) :
    Rewritten buffers before
      (.ok (), { before with contents := before.contents.trimmed buffers })
  | overfull {earlier later : List Segment} {b : Segment} {after : Arena}
    (split : buffers = earlier ++ b :: later)
    (ended : ∀ b' ∈ earlier, before.contents.Terminated b')
    (unended : ¬ before.contents.Terminated b) :
    Rewritten buffers before
      (.error (.conversion (.textTooLong b.length (b.length - 1))), after)

theorem Rewritten.append {buffers buffers' : List Segment} {before : Arena} {region : Set Nat}
    {result : Except Fault Unit × Arena} (inside : ∀ b ∈ buffers, b.span ⊆ regionᶜ)
    (inside' : ∀ b ∈ buffers', b.span ⊆ region)
    (ended : ∀ b ∈ buffers, before.contents.Terminated b)
    (later :
      Rewritten buffers' { before with contents := before.contents.trimmed buffers } result) :
    Rewritten (buffers ++ buffers') before result := by
  have agree := before.contents.agreeOn_trimmed inside
  rw [compl_compl] at agree
  have same : ∀ b ∈ buffers', (before.contents.trimmed buffers).Terminated b ↔
      before.contents.Terminated b :=
    fun b member => (agree.mono (inside' b member)).terminated_iff
  have allEnded : ∀ closed ⊆ buffers',
      (∀ b ∈ closed, (before.contents.trimmed buffers).Terminated b) →
        ∀ b ∈ buffers ++ closed, before.contents.Terminated b := by
    intro closed part ended' b member
    rcases List.mem_append.1 member with first | second
    · exact ended b first
    · exact (same b (part second)).1 (ended' b second)
  cases later with
  | @overfull earlier later b after split ended' unended =>
    have part : earlier ⊆ buffers' := split ▸ List.subset_append_left _ _
    have member : b ∈ buffers' := split ▸ List.mem_append_right _ List.mem_cons_self
    exact .overfull (by rw [split, List.append_assoc]) (allEnded earlier part ended')
      fun closed => unended ((same b member).2 closed)
  | kept ended' =>
    have kept := Rewritten.kept (allEnded buffers' (List.Subset.refl _) ended')
    rwa [← Contents.trimmed_append inside inside'] at kept

theorem Action.bind_error {α β : Type} {action : Action α} {before after : Arena} {e : Fault}
    (run : action before = (.error e, after)) (next : α → Action β) :
    (action >>= next) before = (.error e, after) := by
  change ExceptT.bindCont next (action before).1 (action before).2 = _
  rw [run]
  rfl

theorem Action.bind_cases {α β : Type} {action : Action α} {next : α → Action β}
    {before after : Arena} {result : Except Fault β}
    (run : (action >>= next) before = (result, after)) :
    (∃ e, action before = (.error e, after) ∧ result = .error e) ∨
      ∃ a between, action before = (.ok a, between) ∧ next a between = (result, after) := by
  generalize first : action before = made
  obtain ⟨e | a, between⟩ := made
  · rw [bind_error first] at run
    cases run
    exact .inl ⟨e, rfl, rfl⟩
  · rw [bind_ok first] at run
    exact .inr ⟨a, between, rfl, run⟩

structure Stores (write : Action Unit) (first last : Nat) (fault : Option ConversionError)
    (buffers : List Segment) (Held : Contents → Prop) : Prop where
  le : first ≤ last
  inside : ∀ b ∈ buffers, b.span ⊆ Set.Ico first last
  stable : ∀ {m m' : Contents}, m.AgreeOn (Set.Ico first last) m' → Held m → Held m'
  writes : ∀ arena, ∃ m, write arena = (outcome fault, { arena with contents := m }) ∧
    arena.contents.AgreeOn (Set.Ico first last)ᶜ m ∧ (fault = none → Held m)
  rewrites : ∀ arena, Held arena.contents → Rewritten buffers arena (write arena)

namespace Stores

variable {write write' : Action Unit} {first last first' last' : Nat}
  {fault fault' : Option ConversionError} {buffers buffers' : List Segment}
  {Held Held' : Contents → Prop}

theorem mono (stores : Stores write first last fault buffers Held) (below : first' ≤ first)
    (above : last ≤ last') : Stores write first' last' fault buffers Held where
  le := below.trans (stores.le.trans above)
  inside b member := (stores.inside b member).trans (Set.Ico_subset_Ico below above)
  stable agree := stores.stable (agree.mono (Set.Ico_subset_Ico below above))
  writes arena := by
    obtain ⟨m, run, agree, held⟩ := stores.writes arena
    exact ⟨m, run, agree.mono (Set.compl_subset_compl.2 (Set.Ico_subset_Ico below above)), held⟩
  rewrites := stores.rewrites

theorem congr (stores : Stores write first last fault buffers Held)
    (same : ∀ m, Held' m ↔ Held m) : Stores write first last fault buffers Held' := by
  have equal : Held' = Held := funext fun m => propext (same m)
  exact equal ▸ stores

theorem nil (place : Nat) : Stores (pure ()) place place none [] fun _ => True where
  le := Nat.le_refl place
  inside _ member := nomatch member
  stable _ _ := trivial
  writes arena := ⟨arena.contents, rfl, .refl _ _, fun _ => trivial⟩
  rewrites arena _ := by
    have kept : Rewritten [] arena (.ok (), { arena with contents := arena.contents.trimmed [] }) :=
      .kept nofun
    rwa [Contents.trimmed_nil] at kept

theorem rewritten_seq (stores : Stores write first last fault buffers Held)
    (stores' : Stores write' first' last' fault' buffers' Held') (apart : last ≤ first')
    {arena : Arena} (held : Held arena.contents) (held' : Held' arena.contents) :
    Rewritten (buffers ++ buffers') arena ((do write; write') arena) := by
  have beyond : Set.Ico first last ⊆ (Set.Ico first' last')ᶜ := by
    intro x low inside
    exact absurd (low.2.trans_le (apart.trans inside.1)) (Nat.lt_irrefl x)
  have agree := (arena.contents.agreeOn_trimmed stores.inside).mono
    (Set.subset_compl_comm.1 beyond)
  generalize result : write arena = after
  have rewritten := stores.rewrites arena held
  rw [result] at rewritten
  cases rewritten with
  | overfull split ended unended =>
    rw [Action.bind_error result]
    exact .overfull (by rw [split, List.append_assoc, List.cons_append]) ended unended
  | kept ended =>
    rw [Action.bind_ok result]
    exact .append (fun b member => (stores.inside b member).trans beyond) stores'.inside ended
      (stores'.rewrites _ (stores'.stable agree held'))

theorem seq (stores : Stores write first last fault buffers Held)
    (stores' : Stores write' first' last' fault' buffers' Held') (apart : last ≤ first') :
    Stores (do write; write') first last' (fault.or fault') (buffers ++ buffers')
      fun m => Held m ∧ Held' m where
  le := stores.le.trans (apart.trans stores'.le)
  inside b member := by
    rcases List.mem_append.1 member with early | late
    · exact (stores.inside b early).trans
        (Set.Ico_subset_Ico_right (apart.trans stores'.le))
    · exact (stores'.inside b late).trans (Set.Ico_subset_Ico_left (stores.le.trans apart))
  stable agree held :=
    ⟨stores.stable (agree.mono (Set.Ico_subset_Ico_right (apart.trans stores'.le))) held.1,
      stores'.stable (agree.mono (Set.Ico_subset_Ico_left (stores.le.trans apart))) held.2⟩
  writes arena := by
    have early : Set.Ico first last ⊆ Set.Ico first last' :=
      Set.Ico_subset_Ico_right (apart.trans stores'.le)
    have late : Set.Ico first' last' ⊆ Set.Ico first last' :=
      Set.Ico_subset_Ico_left (stores.le.trans apart)
    obtain ⟨m, run, agree, held⟩ := stores.writes arena
    cases faulty : fault with
    | some e =>
      rw [faulty] at run
      exact ⟨m, Action.bind_error run _, agree.mono (Set.compl_subset_compl.2 early), nofun⟩
    | none =>
      rw [faulty] at run
      obtain ⟨m', run', agree', held'⟩ := stores'.writes { arena with contents := m }
      refine ⟨m', (Action.bind_ok run _).trans run', ?_, fun none' => ⟨?_, held' none'⟩⟩
      · exact (agree.mono (Set.compl_subset_compl.2 early)).trans
          (agree'.mono (Set.compl_subset_compl.2 late))
      · -- The second write leaves the first window alone.
        refine stores.stable (agree'.mono fun x inside high => ?_) (held faulty)
        exact absurd (inside.2.trans_le (apart.trans high.1)) (Nat.lt_irrefl x)
  rewrites _ held := rewritten_seq stores stores' apart held.1 held.2

end Stores
end Bindwright.Memory
