import Bindwright.Proofs.Registry.Run

namespace Bindwright.Registry

open Naming (ConstantGroup)

inductive Fate where
  | queued
  -- The name stands for the existing type at `path`.
  | skipped (path : String)
  -- The destination exists, and the name is mapped to it.
  | redirected
  | rejected (detail : String)

namespace Fate

variable (q : Request)

def failure? : Fate → Option Failure
  | rejected detail => some (.duplicateMapping q.native detail)
  | _ => none

def note? : Fate → Option Diagnostic
  | skipped path => some ⟨.note, skipText q path, .unknown, some "N0001"⟩
  | redirected => some ⟨.note, redirectText q, .unknown, some "N0001"⟩
  | _ => none

def path? : Fate → Option String
  | skipped path => some path
  | redirected => some q.destination.path
  | _ => none

end Fate

def setAside (r : Registry) : List Diagnostic := r.notes.filter (·.code = some "N0001")

/-- The request `q` meets its fate on the way from `r` to the outcome; look-ups of names other than
those in `touched` stay. -/
structure Meets (touched : List String) (r : Registry) (q : Request) (fate : Fate)
    (outcome : Registry × Option Failure) : Prop where
  failure : outcome.2 = fate.failure? q
  setAside : outcome.1.setAside = r.setAside ++ (fate.note? q).toList
  pending : ∀ name q', outcome.1.get? name = some (.pending q') ↔
    r.get? name = some (.pending q') ∨ fate = .queued ∧ name = q.native ∧ q' = q
  path : ∀ path, fate.path? q = some path → outcome.1.existingPath? q.native = some path
  other : ∀ name ∉ touched, outcome.1.get? name = r.get? name

variable {r : Registry} {q : Request}

theorem setAside_note (r : Registry) (message : String) :
    (r.note message).setAside = r.setAside ++ [⟨.note, message, .unknown, some "N0001"⟩] :=
  List.filter_append ..

theorem pending_iff_of_settled (fate : Fate) (settled : fate ≠ .queued) {name : String}
    {q' : Request} : r.get? name = some (.pending q') ↔
      r.get? name = some (.pending q') ∨ fate = .queued ∧ name = q.native ∧ q' = q :=
  ⟨.inl, fun found => found.resolve_right fun queued => settled queued.1⟩

theorem meets_rejected (touched : List String) (r : Registry) (q : Request) (detail : String) :
    Meets touched r q (.rejected detail) (r, some (.duplicateMapping q.native detail)) where
  failure := rfl
  setAside := (List.append_nil _).symm
  pending _ _ := pending_iff_of_settled (.rejected detail) nofun
  path := nofun
  other _ _ := rfl

theorem addRequest_meets (r : Registry) (q : Request) :
    ∃ fate, Meets [q.native] r q fate (r.addRequest q) := by
  rcases addRequest_cases r q with ⟨old, path, here, existing, skipped⟩ | ⟨old, -, -, rejected⟩ |
    ⟨fresh, redirected⟩ | ⟨claimer, -, -, rejected⟩ | ⟨fresh, -, -, queued⟩
  · rw [skipped]
    refine ⟨.skipped path, rfl, setAside_note r _,
      fun _ _ => pending_iff_of_settled (.skipped path) (by simp), fun p same => ?_,
      fun _ _ => rfl⟩
    cases same
    rw [existingPath?, show (r.note _).get? q.native = some old from here]
    exact existing
  · rw [rejected]
    exact ⟨_, meets_rejected _ r q _⟩
  · rw [redirected]
    have renames := renames_put (r.note (redirectText q)) q.native
      (.existing q.native q.destination.path)
    refine ⟨.redirected, rfl, setAside_note r _, fun name q' => ?_, fun p same => ?_,
      fun name other => renames.get?_other (List.ne_of_not_mem_cons other)⟩
    · rw [← pending_iff_of_settled .redirected (by simp), renames.pending_iff rfl]
      refine ⟨fun found => found.2, fun found => ⟨?_, found⟩⟩
      rintro rfl
      cases fresh.symm.trans found
    · cases same
      rw [existingPath?, renames.get?_native]
      rfl
  · rw [rejected]
    exact ⟨_, meets_rejected _ r q _⟩
  · rw [queued]
    have renames := renames_queue r q
    refine ⟨.queued, rfl, (List.append_nil _).symm, fun name q' => ?_, fun p same => ?_,
      fun name other => renames.get?_other (List.ne_of_not_mem_cons other)⟩
    · by_cases same : name = q.native
      · rw [same, renames.get?_native, fresh]
        simp [eq_comm]
      · rw [renames.get?_other same]
        simp [same]
    · cases same

/-! ## One group -/

theorem sharedValues_code {seen : List (Int × HeaderConstant)} {constants : List HeaderConstant} :
    ∀ d ∈ sharedValues seen constants, d.code = some "N0002" := by
  fun_induction sharedValues seen constants with
  | case1 => nofun
  | case2 _ _ _ _ ih => exact ih
  | case3 _ _ _ _ _ _ ih => exact ih
  | case4 _ _ _ _ _ _ _ ih => exact List.forall_mem_cons.2 ⟨rfl, ih⟩

theorem Meets.of_warned {touched : List String} {fate : Fate} {outcome : Registry × Option Failure}
    {constants : List HeaderConstant}
    (h : Meets touched ((sharedValues [] constants).foldl addDiagnostic r) q fate outcome) :
    Meets touched r q fate outcome := by
  rw [foldl_addDiagnostic] at h
  have setAside : Registry.setAside { r with notes := r.notes ++ sharedValues [] constants } =
      r.setAside := by
    have none : (sharedValues [] constants).filter (·.code = some "N0001") = [] :=
      List.filter_eq_nil_iff.2 fun d member => by rw [sharedValues_code d member]; decide
    rw [Registry.setAside, List.filter_append, none, List.append_nil]
    rfl
  exact ⟨h.failure, setAside ▸ h.setAside, h.pending, h.path, h.other⟩

theorem Meets.mono {touched touched' : List String} {fate : Fate}
    {outcome : Registry × Option Failure} (meets : Meets touched r q fate outcome)
    (within : touched ⊆ touched') : Meets touched' r q fate outcome :=
  ⟨meets.failure, meets.setAside, meets.pending, meets.path,
    fun name out => meets.other name fun member => out (within member)⟩

theorem addGroup_meets (r : Registry) (sourceModule module : String) (group : ConstantGroup)
    (native : String) (constants : List HeaderConstant) :
    ∃ fate, Meets [native] r (groupRequest native sourceModule module group constants) fate
      (r.addGroup sourceModule module group native constants) := by
  unfold addGroup
  split
  · rename_i earlier later variant clash
    exact ⟨_, meets_rejected _ r _ _⟩
  · obtain ⟨fate, meets⟩ := addRequest_meets ((sharedValues [] constants).foldl addDiagnostic r)
      (groupRequest native sourceModule module group constants)
    exact ⟨fate, meets.of_warned⟩

def Free (r : Registry) (name : String) : Prop :=
  ∀ m, r.get? name = some m → m.existingPath?.isSome = true

theorem Free.addFlagBits {native : String} (free : r.Free native) (flags : String) :
    r.addFlagBits native flags = (r, none) ∨
      r.addFlagBits native flags = (r.put native (.flagBits native flags), none) := by
  unfold Registry.addFlagBits
  cases here : r.get? native with
  | none => exact .inr rfl
  | some old => exact .inl (if_pos (free old here))

theorem Free.not_pending {name : String} (free : r.Free name) :
    r.get? name ≠ some (.pending q) := fun found => nomatch free _ found

theorem Meets.addFlagBits {s : Registry} {fate : Fate} {owner : String}
    (meets : Meets [q.native] r q fate (s, none)) (other : owner ≠ q.native)
    (free : r.Free owner) (flags : String) :
    Meets [q.native, owner] r q fate (s.addFlagBits owner flags) := by
  have untouched (name : String) (out : name ∉ [q.native, owner]) :
      name ≠ q.native ∧ name ≠ owner := by
    simpa only [List.mem_cons, List.not_mem_nil, or_false, not_or] using out
  have same (name : String) (ne : name ≠ q.native) : s.get? name = r.get? name :=
    meets.other name (by simpa only [List.mem_singleton] using ne)
  have free' : s.Free owner := fun m found => free m ((same owner other).symm.trans found)
  rcases free'.addFlagBits flags with after | after
  · rw [after]
    exact meets.mono (List.cons_subset_cons _ (List.nil_subset _))
  · rw [after]
    have renames := renames_put s owner (.flagBits owner flags)
    refine ⟨meets.failure, meets.setAside, fun name q' => ?_, fun path found => ?_,
      fun name out => ?_⟩
    · rw [← meets.pending, renames.pending_iff rfl]
      refine ⟨fun found => found.2, fun found => ⟨?_, found⟩⟩
      rintro rfl
      exact free'.not_pending found
    · rw [existingPath?, renames.get?_other (Ne.symm other)]
      exact meets.path path found
    · rw [renames.get?_other (untouched name out).2]
      exact same name (untouched name out).1

theorem addFlagGroup_meets (r : Registry) (sourceModule module native : String)
    (g : OwnedConstants) (other : g.owner ≠ native) (free : r.Free g.owner) :
    ∃ fate, Meets [native, g.owner] r
      (groupRequest native sourceModule module .flags g.constants) fate
      (addFlagGroup sourceModule module r native g) := by
  obtain ⟨fate, meets⟩ := addGroup_meets r sourceModule module .flags native g.constants
  refine ⟨fate, ?_⟩
  unfold addFlagGroup
  generalize r.addGroup sourceModule module .flags native g.constants = outcome at meets
  obtain ⟨s, failure⟩ := outcome
  cases failure with
  | some f => exact meets.mono (List.cons_subset_cons _ (List.nil_subset _))
  | none =>
    exact Meets.addFlagBits (q := groupRequest native sourceModule module .flags g.constants)
      meets other free native

/-! ## All groups -/

section Groups

variable {sourceModule module : String}

theorem registerGroup_meets (sourceModule module : String) (r : Registry) (g : HeaderGroup)
    (free : g.group = .flags → g.owner ≠ g.native ∧ r.Free g.owner) :
    ∃ fate, Meets [g.native, g.owner] r (groupRequestOf sourceModule module g) fate
      (registerGroup sourceModule module r g) := by
  obtain ⟨group, native, owner, constants⟩ := g
  cases group with
  | flags =>
    obtain ⟨other, free⟩ := free rfl
    exact addFlagGroup_meets r sourceModule module native ⟨owner, constants⟩ other free
  | values =>
    obtain ⟨fate, meets⟩ := addGroup_meets r sourceModule module .values native constants
    exact ⟨fate, meets.mono (List.cons_subset_cons _ (List.nil_subset _))⟩

variable (sourceModule module) in
def failuresOf (fates : List (HeaderGroup × Fate)) : List Failure :=
  fates.filterMap fun x => x.2.failure? (groupRequestOf sourceModule module x.1)

variable (sourceModule module) in
def notesOf (fates : List (HeaderGroup × Fate)) : List Diagnostic :=
  fates.filterMap fun x => x.2.note? (groupRequestOf sourceModule module x.1)

variable (sourceModule module) in
/-- What is reported, noted and queued between `r` and the outcome is what the fates say. -/
structure Accounted (r : Registry) (fates : List (HeaderGroup × Fate))
    (outcome : Registry × List Failure) : Prop where
  failures : outcome.2 = failuresOf sourceModule module fates
  setAside : outcome.1.setAside = r.setAside ++ notesOf sourceModule module fates
  pending : ∀ name q, outcome.1.get? name = some (.pending q) ↔
    r.get? name = some (.pending q) ∨ ∃ g, (g, Fate.queued) ∈ fates ∧ name = g.native ∧
      q = groupRequestOf sourceModule module g
  path : ∀ x ∈ fates, ∀ path, x.2.path? (groupRequestOf sourceModule module x.1) = some path →
    outcome.1.existingPath? x.1.native = some path

theorem Accounted.cons {g : HeaderGroup} {fate : Fate} {fates : List (HeaderGroup × Fate)}
    {first : Registry × Option Failure} {rest : Registry × List Failure}
    (meets : Meets [g.native, g.owner] r (groupRequestOf sourceModule module g) fate first)
    (accounted : Accounted sourceModule module first.1 fates rest) (grows : Grows first.1 rest.1) :
    Accounted sourceModule module r ((g, fate) :: fates) (rest.1, first.2.toList ++ rest.2) where
  failures := by
    rw [meets.failure, accounted.failures, failuresOf, failuresOf, List.filterMap_cons]
    cases fate.failure? (groupRequestOf sourceModule module g) <;> rfl
  setAside := by
    rw [accounted.setAside, meets.setAside, List.append_assoc, notesOf, notesOf,
      List.filterMap_cons]
    cases fate.note? (groupRequestOf sourceModule module g) <;> rfl
  pending name q := by
    rw [accounted.pending, meets.pending, or_assoc]
    refine or_congr_right ⟨?_, ?_⟩
    · rintro (⟨rfl, own, same⟩ | ⟨g', member, found⟩)
      · exact ⟨g, List.mem_cons_self, own, same⟩
      · exact ⟨g', List.mem_cons_of_mem _ member, found⟩
    · rintro ⟨g', member, found⟩
      rcases List.mem_cons.1 member with same | member
      · cases same
        exact .inl ⟨rfl, found⟩
      · exact .inr ⟨g', member, found⟩
  path := by
    refine List.forall_mem_cons.2 ⟨fun path found => ?_, accounted.path⟩
    have keeps : Keeps ∅ first.1 rest.1 := grows.keeps
    exact keeps.path _ _ (meets.path path found)

variable (sourceModule module) in
theorem registerGroups_fates {gs : List HeaderGroup}
    (apart : gs.Pairwise fun g g' => g'.group = .flags → g'.owner ∉ [g.native, g.owner])
    (free : ∀ g ∈ gs, g.group = .flags → g.owner ≠ g.native ∧ r.Free g.owner) :
    ∃ fates : List (HeaderGroup × Fate), fates.map Prod.fst = gs ∧
      Accounted sourceModule module r fates (registerGroups sourceModule module r gs) := by
  induction gs generalizing r with
  | nil =>
    refine ⟨[], rfl, rfl, (List.append_nil _).symm, fun name q => ?_, nofun⟩
    exact ⟨.inl, fun found => found.resolve_right fun ⟨_, member, _⟩ => nomatch member⟩
  | cons g gs ih =>
    obtain ⟨first, apart⟩ := List.pairwise_cons.1 apart
    obtain ⟨freeOwner, free⟩ := List.forall_mem_cons.1 free
    obtain ⟨fate, meets⟩ := registerGroup_meets sourceModule module r g freeOwner
    have free' : ∀ g' ∈ gs, g'.group = .flags → g'.owner ≠ g'.native ∧
        (registerGroup sourceModule module r g).1.Free g'.owner := by
      intro g' member flags
      refine ⟨(free g' member flags).1, fun m found => (free g' member flags).2 m ?_⟩
      rwa [meets.other g'.owner (first g' member flags)] at found
    obtain ⟨fates, same, accounted⟩ := ih apart free'
    exact ⟨(g, fate) :: fates, congrArg (g :: ·) same,
      .cons meets accounted (registerGroups_grows sourceModule module _ gs)⟩

end Groups

/-! ## A whole header -/

theorem headerGroups_apart (constants : List HeaderConstant) :
    (headerGroups constants).Pairwise fun g g' =>
      g'.group = .flags → g'.owner ∉ [g.native, g.owner] := by
  refine List.pairwise_append.2 ⟨?_, ?_, ?_⟩
  · refine (groupsOf_pairwise .flags constants).imp_of_mem ?_
    intro g g' here here' differ _
    obtain ⟨stem, owner, native⟩ := exists_stem_of_flags here
    obtain ⟨stem', owner', native'⟩ := exists_stem_of_flags here'
    rw [List.mem_cons, List.mem_singleton, not_or, owner', native, owner]
    refine ⟨flagBits_ne_flags stem' stem, fun same => differ ?_⟩
    rw [native, native', (String.append_left_inj _).1 same]
  · refine (groupsOf_pairwise .values constants).imp_of_mem ?_
    intro g g' _ here' _ flags
    cases flags.symm.trans (mem_headerGroups here').2
  · intro g _ g' here' flags
    cases flags.symm.trans (mem_headerGroups here').2

theorem ambiguousOwners_eq (constants : List HeaderConstant) :
    ambiguousOwners constants =
      (constants.filter fun c => c.isCandidate && c.owners.length != 1).map fun c =>
        .ambiguousOwner c.name c.owners.length c.location := by
  unfold ambiguousOwners
  rw [← List.filterMap_eq_map, ← List.filterMap_eq_filter, List.filterMap_filterMap]
  refine List.filterMap_congr fun c _ => ?_
  split
  · rename_i found ambiguous
    obtain ⟨candidate, several, rfl⟩ := placement_eq_ambiguous_iff.1 ambiguous
    simp [candidate, several]
  · rename_i unambiguous
    have unique : ¬(c.isCandidate && c.owners.length != 1) = true := by
      intro several
      rw [Bool.and_eq_true, bne_iff_ne] at several
      exact unambiguous _ (placement_eq_ambiguous_iff.2 ⟨several.1, several.2, rfl⟩)
    rw [Option.guard_apply, if_neg unique, Option.bind_none]

theorem Accounted.queued_iff {constants : List HeaderConstant}
    {fates : List (HeaderGroup × Fate)} {outcome : Registry × List Failure}
    {sourceModule module : String} (accounted : Accounted sourceModule module r fates outcome)
    (groups : fates.map Prod.fst = headerGroups constants)
    (idle : ∀ name q, r.get? name ≠ some (.pending q)) {x : HeaderGroup × Fate}
    (member : x ∈ fates) :
    x.2 = .queued ↔ ∃ q kind type, outcome.1.get? x.1.native = some (.pending q) ∧
      q.product = .constants kind x.1.constants type := by
  constructor
  · intro queued
    refine ⟨groupRequestOf sourceModule module x.1, _, _, ?_, rfl⟩
    exact (accounted.pending _ _).2 (.inr ⟨x.1, queued ▸ member, rfl, rfl⟩)
  · rintro ⟨q, kind, type, found, product⟩
    obtain ⟨g, queued, -, rfl⟩ := ((accounted.pending _ _).1 found).resolve_left (idle _ q)
    have shared : g.constants = x.1.constants := by
      injection product
    have group {y : HeaderGroup × Fate} (member : y ∈ fates) : y.1 ∈ headerGroups constants :=
      groups ▸ List.mem_map_of_mem member
    obtain ⟨c, inside⟩ :=
      List.exists_mem_of_ne_nil _ (mem_headerGroups_iff.1 (group member)).2
    have own : x.1 = g := eq_of_mem_mem (group member) (group queued) inside (shared ▸ inside)
    have distinct : (fates.map Prod.fst).Nodup := groups ▸ nodup_headerGroups constants
    exact congrArg Prod.snd (List.inj_on_of_nodup_map distinct member queued own)

/-- What becomes of the constants of a header in a registry that holds existing types only. Each
constant that belongs to an owner is in one group, and each group holds all of its constants in the
order of the header. Constants without a unique owner are reported first. Then each group has one
fate: its request is pending, or was set aside with a note, or was rejected with a failure that
names the group. (Two groups can have one name; a failure counts for the group whose request it
rejects.) -/
theorem header_accounts_for_constants (r : Registry)
    (explicit : ∀ name m, r.get? name = some m → m.existingPath?.isSome = true)
    (b : Bindings) (module : String) :
    let s := (r.addHeader b module).1
    (∀ c ∈ b.constants, ∀ owner, c.isCandidate = true → c.owners = [owner] →
      Naming.isExtensionName owner = false →
      ∃ g ∈ headerGroups b.constants, g.owner = owner ∧ c.BelongsTo g.group g.native owner ∧
        ∀ g' ∈ headerGroups b.constants, c ∈ g'.constants ↔ g' = g) ∧
    (∀ g ∈ headerGroups b.constants,
      g.constants = b.constants.filter (·.home? = some (g.group, g.native, g.owner))) ∧
    ∃ fates : List (HeaderGroup × Fate), fates.map Prod.fst = headerGroups b.constants ∧
      (r.addHeader b module).2 =
        ((b.constants.filter fun c => c.isCandidate && c.owners.length != 1).map fun c =>
          .ambiguousOwner c.name c.owners.length c.location) ++
          failuresOf b.headerModule module fates ∧
      s.setAside = r.setAside ++ notesOf b.headerModule module fates ∧
      ∀ x ∈ fates,
        (x.2 = .queued ↔ ∃ q kind type, s.get? x.1.native = some (.pending q) ∧
          q.product = .constants kind x.1.constants type) ∧
        ∀ path, x.2.path? (groupRequestOf b.headerModule module x.1) = some path →
          s.existingPath? x.1.native = some path := by
  rw [addHeader_eq, ambiguousOwners_eq]
  intro s
  have free : ∀ g ∈ headerGroups b.constants, g.group = .flags →
      g.owner ≠ g.native ∧ r.Free g.owner := by
    intro g member flags
    obtain ⟨stem, owner, native⟩ := exists_stem_of_flags (flags ▸ mem_groupsOf_self member)
    exact ⟨owner ▸ native ▸ flagBits_ne_flags stem stem, explicit g.owner⟩
  -- Nothing is pending at first, so what is pending later was queued by a group.
  have idle (name : String) (q : Request) : r.get? name ≠ some (.pending q) :=
    fun found => nomatch explicit name _ found
  obtain ⟨fates, same, accounted⟩ :=
    registerGroups_fates b.headerModule module (headerGroups_apart b.constants) free
  refine ⟨?_, fun g member => (mem_headerGroups_iff.1 member).1, fates, same,
    congrArg _ accounted.failures, accounted.setAside, fun x member =>
      ⟨accounted.queued_iff same idle member, accounted.path x member⟩⟩
  intro c member owner candidate owners core
  obtain ⟨group, native, belongs⟩ := exists_belongsTo c owner
  obtain ⟨g, here, rfl, rfl, rfl, inside⟩ := exists_group_of_home? member
    (home?_eq_some_iff.2 ⟨candidate, owners, core, belongs⟩)
  refine ⟨g, here, rfl, belongs, fun g' here' => ⟨fun inside' => ?_, fun same => same ▸ inside⟩⟩
  exact eq_of_mem_mem here' here inside' inside

def ownedConstant (owner name : String) : HeaderConstant :=
  { name, module := "bindings", typeName := owner, value := none
    documentation := "\x7b@snippet : enum " ++ owner ++ "." ++ name ++ "; \x7d"
    form := .const, location := .unknown }

def headerOf (constants : List HeaderConstant) : Bindings :=
  { types := [], functionPointers := [], constants, layouts := [], headerModule := "bindings"
    separator := '$' }

section Pair

variable {bit value : HeaderConstant} {native owner name : String}
  (flags : bit.placement = .flags native owner) (values : value.placement = .values name)

include flags values

theorem groupsOf_pair : groupsOf .flags [bit, value] = [⟨.flags, native, owner, [bit]⟩] ∧
    groupsOf .values [bit, value] = [⟨.values, name, name, [value]⟩] := by
  simp only [groupsOf, groupTable, flagGroups, valueGroups, List.foldl_cons, List.foldl_nil, flags,
    values]
  exact ⟨rfl, rfl⟩

theorem headerGroups_pair : headerGroups [bit, value] =
    [⟨.flags, native, owner, [bit]⟩, ⟨.values, name, name, [value]⟩] := by
  obtain ⟨ofBit, ofValue⟩ := groupsOf_pair flags values
  rw [headerGroups, ofBit, ofValue, List.singleton_append]

theorem ambiguousOwners_pair : ambiguousOwners [bit, value] = [] := by
  simp only [ambiguousOwners, List.filterMap_cons, List.filterMap_nil, flags, values]

end Pair

def queueBit : HeaderConstant := ownedConstant "VkQueueFlagBits" "VK_QUEUE_GRAPHICS_BIT"

def formatValue : HeaderConstant := ownedConstant "VkFormat" "VK_FORMAT_UNDEFINED"

theorem queueBit_placement : queueBit.placement = .flags "VkQueueFlags" "VkQueueFlagBits" := by
  decide +kernel

theorem formatValue_placement : formatValue.placement = .values "VkFormat" := by
  decide +kernel

theorem header_accounts_for_constants_mapped :
    let r := ((withMaterialized []).addMapping "VkQueueFlags" "crate::vk::QueueFlag").1
    let b := headerOf [queueBit, formatValue]
    ∃ fates : List (HeaderGroup × Fate),
      fates.map (·.1.native) = ["VkQueueFlags", "VkFormat"] ∧
      (r.addHeader b "crate::vk").2 = failuresOf b.headerModule "crate::vk" fates ∧
      (r.addHeader b "crate::vk").1.setAside =
        r.setAside ++ notesOf b.headerModule "crate::vk" fates := by
  intro r b
  have explicit (name : String) (m : Mapping) (found : r.get? name = some m) :
      m.existingPath?.isSome = true := by
    rw [get?, show r.mappings = Table.empty.insert _ _ from rfl, Table.find?_insert] at found
    split at found
    · cases found
      rfl
    · cases found
  obtain ⟨-, -, fates, groups, failures, notes, -⟩ :=
    header_accounts_for_constants r explicit b "crate::vk"
  have owned : ambiguousOwners b.constants = [] :=
    ambiguousOwners_pair queueBit_placement formatValue_placement
  have natives : (headerGroups b.constants).map (·.native) = ["VkQueueFlags", "VkFormat"] := by
    rw [show headerGroups b.constants = _ from
      headerGroups_pair queueBit_placement formatValue_placement]
    rfl
  rw [← ambiguousOwners_eq, owned, List.nil_append] at failures
  refine ⟨fates, ?_, failures, notes⟩
  rw [← natives, ← groups, List.map_map]
  rfl

end Bindwright.Registry
