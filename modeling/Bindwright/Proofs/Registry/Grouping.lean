import Bindwright.Proofs.Table
import Bindwright.Registry.Header
import Mathlib.Data.List.Induction

/-!
# The groups of a header

A constant that belongs to one owner has one home: the flags `…Flags` if it is a bit of an owner
`…FlagBits`, and its owner's values otherwise (`home?_eq_some_iff`). The groups of a header are the
homes of its constants, and each holds all constants with that home in the order of the header
(`mem_headerGroups_iff`). The tables of the two kinds are filled alike, so `gather` says for both
what a look-up gives after any number of constants. To register a header is to register its groups
in turn (`Registry.addHeader_eq`).
-/

namespace Bindwright

open Naming (ConstantGroup)

structure HeaderGroup where
  group : ConstantGroup
  native : String
  owner : String
  constants : List HeaderConstant

def groupTable : ConstantGroup → List HeaderConstant → Table String OwnedConstants
  | .flags => flagGroups
  | .values => valueGroups

def groupsOf (group : ConstantGroup) (constants : List HeaderConstant) : List HeaderGroup :=
  (groupTable group constants).entries.map fun e => ⟨group, e.1, e.2.owner, e.2.constants⟩

def headerGroups (constants : List HeaderConstant) : List HeaderGroup :=
  groupsOf .flags constants ++ groupsOf .values constants

def HeaderConstant.home? (c : HeaderConstant) : Option (ConstantGroup × String × String) :=
  match c.placement with
  | .flags native owner => some (.flags, native, owner)
  | .values native => some (.values, native, native)
  | .passedOver | .ambiguous _ => none

/-- A bit of an owner `…FlagBits` belongs to the flags `…Flags`, and another constant to the values
of its owner. -/
def HeaderConstant.BelongsTo (c : HeaderConstant) (group : ConstantGroup) (native owner : String) :
    Prop :=
  match group with
  | .flags => c.isBit = true ∧ ∃ stem, owner = stem ++ "FlagBits" ∧ native = stem ++ "Flags"
  | .values => native = owner ∧ ¬(c.isBit = true ∧ ∃ stem, owner = stem ++ "FlagBits")

/-! ## Homes -/

theorem beforeSuffix?_toList_eq_some_iff {text tail : String} {stem : List Char} :
    Text.beforeSuffix? tail.toList text.toList = some stem ↔ text = String.ofList stem ++ tail := by
  rw [← String.toList_inj, String.toList_append, String.toList_ofList]
  constructor
  · exact Text.eq_append_of_beforeSuffix?
  · intro same
    rw [same, Text.beforeSuffix?_append]

section Homes

variable {c : HeaderConstant} {owner : String}

theorem placement_of_owned (candidate : c.isCandidate = true) (owners : c.owners = [owner])
    (core : Naming.isExtensionName owner = false) :
    c.placement = (Text.beforeSuffix? "FlagBits".toList owner.toList).elim (.values owner)
      fun stem => if c.isBit then .flags (String.ofList stem ++ "Flags") owner
        else .values owner := by
  simp only [HeaderConstant.placement, candidate, owners, core, Bool.not_true, Bool.false_eq_true,
    ↓reduceIte]
  cases Text.beforeSuffix? "FlagBits".toList owner.toList <;> rfl

theorem home?_bit {stem : String} (candidate : c.isCandidate = true)
    (owners : c.owners = [stem ++ "FlagBits"])
    (core : Naming.isExtensionName (stem ++ "FlagBits") = false) (bit : c.isBit = true) :
    c.home? = some (.flags, stem ++ "Flags", stem ++ "FlagBits") := by
  have suffix : Text.beforeSuffix? "FlagBits".toList (stem ++ "FlagBits").toList =
      some stem.toList := by
    rw [beforeSuffix?_toList_eq_some_iff, String.ofList_toList]
  rw [HeaderConstant.home?, placement_of_owned candidate owners core, suffix]
  simp only [Option.elim_some, bit, ↓reduceIte, String.ofList_toList]

theorem home?_value (candidate : c.isCandidate = true) (owners : c.owners = [owner])
    (core : Naming.isExtensionName owner = false)
    (plain : ¬(c.isBit = true ∧ ∃ stem, owner = stem ++ "FlagBits")) :
    c.home? = some (.values, owner, owner) := by
  rw [HeaderConstant.home?, placement_of_owned candidate owners core]
  cases suffix : Text.beforeSuffix? "FlagBits".toList owner.toList with
  | none => rfl
  | some stem =>
    have bit : ¬c.isBit = true := fun bit =>
      plain ⟨bit, _, beforeSuffix?_toList_eq_some_iff.1 suffix⟩
    simp only [Option.elim_some, bit, Bool.false_eq_true, ↓reduceIte]

theorem home?_eq_none (homeless : ¬(c.isCandidate = true ∧
    ∃ owner, c.owners = [owner] ∧ Naming.isExtensionName owner = false)) : c.home? = none := by
  unfold HeaderConstant.home?
  fun_cases HeaderConstant.placement c with
  | case1 | case2 | case6 => rfl
  | case3 candidate owner owners core | case4 candidate owner owners core
  | case5 candidate owner owners core =>
    rw [Bool.not_eq_true, Bool.not_eq_false'] at candidate
    exact absurd ⟨candidate, owner, owners, eq_false_of_ne_true core⟩ homeless

theorem placement_eq_ambiguous_iff {found : Nat} :
    c.placement = .ambiguous found ↔
      c.isCandidate = true ∧ c.owners.length ≠ 1 ∧ found = c.owners.length := by
  rw [Ne, List.length_eq_one_iff]
  fun_cases HeaderConstant.placement c with
  | case1 other =>
    rw [Bool.not_eq_true'] at other
    simp [other]
  | case2 _ _ owners | case3 _ _ owners | case4 _ _ owners | case5 _ _ owners => simp [owners]
  | case6 candidate several =>
    rw [Bool.not_eq_true, Bool.not_eq_false'] at candidate
    simp only [candidate, HeaderConstant.Placement.ambiguous.injEq, true_and]
    exact ⟨fun same => ⟨fun ⟨owner, owners⟩ => several owner owners, same.symm⟩,
      fun same => same.2.symm⟩

theorem home?_eq_some_iff {group : ConstantGroup} {native : String} :
    c.home? = some (group, native, owner) ↔
      c.isCandidate = true ∧ c.owners = [owner] ∧ Naming.isExtensionName owner = false ∧
        c.BelongsTo group native owner := by
  constructor
  · intro home
    by_cases housed : c.isCandidate = true ∧
      ∃ owner, c.owners = [owner] ∧ Naming.isExtensionName owner = false
    · obtain ⟨candidate, owner', owners, core⟩ := housed
      by_cases bit : c.isBit = true ∧ ∃ stem, owner' = stem ++ "FlagBits"
      · obtain ⟨bit, stem, rfl⟩ := bit
        cases (home?_bit candidate owners core bit).symm.trans home
        exact ⟨candidate, owners, core, bit, stem, rfl, rfl⟩
      · cases (home?_value candidate owners core bit).symm.trans home
        exact ⟨candidate, owners, core, rfl, bit⟩
    · rw [home?_eq_none housed] at home
      cases home
  · rintro ⟨candidate, owners, core, belongs⟩
    cases group with
    | flags =>
      obtain ⟨bit, stem, rfl, rfl⟩ := belongs
      exact home?_bit candidate owners core bit
    | values =>
      obtain ⟨rfl, plain⟩ := belongs
      exact home?_value candidate owners core plain

theorem exists_belongsTo (c : HeaderConstant) (owner : String) :
    ∃ group native, c.BelongsTo group native owner := by
  by_cases bit : c.isBit = true ∧ ∃ stem, owner = stem ++ "FlagBits"
  · obtain ⟨bit, stem, rfl⟩ := bit
    exact ⟨.flags, stem ++ "Flags", bit, stem, rfl, rfl⟩
  · exact ⟨.values, owner, rfl, bit⟩

theorem owner_eq_of_home? {c' : HeaderConstant} {group : ConstantGroup} {native owner' : String}
    (home : c.home? = some (group, native, owner))
    (home' : c'.home? = some (group, native, owner')) : owner = owner' := by
  obtain ⟨-, -, -, belongs⟩ := home?_eq_some_iff.1 home
  obtain ⟨-, -, -, belongs'⟩ := home?_eq_some_iff.1 home'
  cases group with
  | flags =>
    obtain ⟨-, stem, rfl, native⟩ := belongs
    obtain ⟨-, stem', rfl, native'⟩ := belongs'
    have same : stem = stem' := by
      rw [native, ← String.toList_inj, String.toList_append, String.toList_append,
        List.append_left_inj, String.toList_inj] at native'
      exact native'
    rw [same]
  | values => exact belongs.1.symm.trans belongs'.1

end Homes

/-! ## Filling a table of groups -/

def gather (place : HeaderConstant → Option (String × String)) (constants : List HeaderConstant) :
    Table String OwnedConstants :=
  constants.foldl (fun groups c =>
    match place c with
    | some (native, owner) => OwnedConstants.addTo groups native owner c
    | none => groups) .empty

section Gather

variable (place : HeaderConstant → Option (String × String))

def placedAt (native : String) (constants : List HeaderConstant) : List HeaderConstant :=
  constants.filter fun c => (place c).map Prod.fst = some native

theorem gather_concat (constants : List HeaderConstant) (c : HeaderConstant) :
    gather place (constants ++ [c]) =
      match place c with
      | some (native, owner) => OwnedConstants.addTo (gather place constants) native owner c
      | none => gather place constants := by
  unfold gather
  rw [List.foldl_append]
  rfl

theorem nodup_keys_gather (constants : List HeaderConstant) :
    (gather place constants).keys.Nodup := by
  induction constants using List.reverseRecOn with
  | nil => exact List.nodup_nil
  | append_singleton constants c ih =>
    rw [gather_concat]
    split
    · exact Table.nodup_keys_alter ih _ _
    · exact ih

theorem find?_gather (constants : List HeaderConstant) (native : String) :
    (gather place constants).find? native =
      ((placedAt place native constants).head?.bind place).map fun home =>
        ⟨home.2, placedAt place native constants⟩ := by
  induction constants using List.reverseRecOn with
  | nil => rfl
  | append_singleton constants c ih =>
    have split : placedAt place native (constants ++ [c]) =
        placedAt place native constants ++ placedAt place native [c] := List.filter_append ..
    rw [gather_concat, split]
    cases home : place c with
    | none => simpa [placedAt, home] using ih
    | some home' =>
      obtain ⟨native', owner⟩ := home'
      simp only [OwnedConstants.addTo, Table.find?_alter]
      by_cases here : native = native'
      · subst here
        rw [if_pos rfl, ih]
        -- The first constant of a group gives it its owner.
        cases members : placedAt place native constants with
        | nil => simp [placedAt, home]
        | cons first rest =>
          have member : first ∈ placedAt place native constants := members ▸ List.mem_cons_self
          obtain ⟨home', placed, -⟩ :=
            Option.map_eq_some_iff.1 (of_decide_eq_true (List.mem_filter.1 member).2)
          simp [placedAt, home, placed]
      · rw [if_neg here, ih]
        simp [placedAt, home, Ne.symm here]

variable {place}

theorem find?_gather_eq_some_iff
    (functional : ∀ c c' native owner owner', place c = some (native, owner) →
      place c' = some (native, owner') → owner = owner')
    {constants : List HeaderConstant} {native : String} {g : OwnedConstants} :
    (gather place constants).find? native = some g ↔
      g.constants = constants.filter (fun c => place c = some (native, g.owner)) ∧
        g.constants ≠ [] := by
  -- A native name determines its owner, so to have the name is to have the place.
  have members {first : HeaderConstant} {owner : String}
      (home : place first = some (native, owner)) : placedAt place native constants =
        constants.filter fun c => place c = some (native, owner) := by
    refine List.filter_congr fun c _ => decide_eq_decide.2 ?_
    rw [Option.map_eq_some_iff]
    constructor
    · rintro ⟨⟨native', owner'⟩, home', rfl⟩
      rw [home', functional c first _ _ _ home' home]
    · exact fun home' => ⟨_, home', rfl⟩
  rw [find?_gather]
  constructor
  · intro found
    obtain ⟨⟨native', owner⟩, home, rfl⟩ := Option.map_eq_some_iff.1 found
    obtain ⟨first, head, placed⟩ := Option.bind_eq_some_iff.1 home
    have member := List.mem_of_head? head
    have own : native' = native := by
      have placed' := of_decide_eq_true (List.mem_filter.1 member).2
      rw [placed, Option.map_some, Option.some.injEq] at placed'
      exact placed'
    subst own
    exact ⟨members placed, List.ne_nil_of_mem member⟩
  · rintro ⟨all, nonempty⟩
    obtain ⟨first, rest, split⟩ := List.exists_cons_of_ne_nil nonempty
    have placed : place first = some (native, g.owner) := by
      have member : first ∈ g.constants := split ▸ List.mem_cons_self
      rw [all] at member
      exact of_decide_eq_true (List.mem_filter.1 member).2
    rw [members placed, ← all, split, List.head?_cons, Option.bind_some, placed, Option.map_some,
      ← split]

end Gather

/-! ## The groups -/

def HeaderConstant.placeIn? (group : ConstantGroup) (c : HeaderConstant) :
    Option (String × String) :=
  c.home?.bind fun home => if home.1 = group then some home.2 else none

theorem placeIn?_eq_some_iff {group : ConstantGroup} {c : HeaderConstant} {home : String × String} :
    c.placeIn? group = some home ↔ c.home? = some (group, home) := by
  unfold HeaderConstant.placeIn?
  rw [Option.bind_eq_some_iff]
  constructor
  · rintro ⟨⟨group', home'⟩, found, same⟩
    split at same
    · rename_i here
      rw [found, ← Option.some.inj same, ← show group' = group from here]
    · cases same
  · intro found
    exact ⟨_, found, if_pos rfl⟩

theorem groupTable_eq (group : ConstantGroup) (constants : List HeaderConstant) :
    groupTable group constants = gather (HeaderConstant.placeIn? group) constants := by
  cases group
  all_goals
    unfold groupTable gather HeaderConstant.placeIn? HeaderConstant.home?
    refine congrFun (congrArg (List.foldl · _) ?_) constants
    funext groups c
    cases c.placement <;> rfl

theorem mem_entries_gather_iff {group : ConstantGroup} {constants : List HeaderConstant}
    {native : String} {g : OwnedConstants} :
    (native, g) ∈ (gather (HeaderConstant.placeIn? group) constants).entries ↔
      g.constants = constants.filter (fun c => c.home? = some (group, native, g.owner)) ∧
        g.constants ≠ [] := by
  have functional (c c' : HeaderConstant) (native owner owner' : String)
      (home : c.placeIn? group = some (native, owner))
      (home' : c'.placeIn? group = some (native, owner')) : owner = owner' :=
    owner_eq_of_home? (placeIn?_eq_some_iff.1 home) (placeIn?_eq_some_iff.1 home')
  rw [Table.mem_entries_iff (nodup_keys_gather _ constants), find?_gather_eq_some_iff functional]
  simp only [placeIn?_eq_some_iff]

theorem mem_groupsOf_iff {group : ConstantGroup} {constants : List HeaderConstant}
    {g : HeaderGroup} :
    g ∈ groupsOf group constants ↔ g.group = group ∧
      g.constants = constants.filter (fun c => c.home? = some (g.group, g.native, g.owner)) ∧
        g.constants ≠ [] := by
  obtain ⟨group', native, owner, members⟩ := g
  unfold groupsOf
  rw [groupTable_eq, List.mem_map]
  constructor
  · rintro ⟨⟨native', g⟩, member, same⟩
    cases same
    exact ⟨rfl, mem_entries_gather_iff.1 member⟩
  · rintro ⟨rfl, all⟩
    exact ⟨(native, ⟨owner, members⟩), mem_entries_gather_iff.2 all, rfl⟩

theorem mem_headerGroups_iff {constants : List HeaderConstant} {g : HeaderGroup} :
    g ∈ headerGroups constants ↔
      g.constants = constants.filter (fun c => c.home? = some (g.group, g.native, g.owner)) ∧
        g.constants ≠ [] := by
  unfold headerGroups
  rw [List.mem_append, mem_groupsOf_iff, mem_groupsOf_iff, ← or_and_right, and_iff_right]
  cases g.group
  · exact .inl rfl
  · exact .inr rfl

theorem mem_headerGroups {group : ConstantGroup} {constants : List HeaderConstant}
    {g : HeaderGroup} (member : g ∈ groupsOf group constants) :
    g ∈ headerGroups constants ∧ g.group = group :=
  have kind := mem_groupsOf_iff.1 member
  ⟨mem_headerGroups_iff.2 kind.2, kind.1⟩

theorem mem_groupsOf_self {constants : List HeaderConstant} {g : HeaderGroup}
    (member : g ∈ headerGroups constants) : g ∈ groupsOf g.group constants :=
  mem_groupsOf_iff.2 ⟨rfl, mem_headerGroups_iff.1 member⟩

theorem groupsOf_pairwise (group : ConstantGroup) (constants : List HeaderConstant) :
    (groupsOf group constants).Pairwise (·.native ≠ ·.native) := by
  unfold groupsOf
  rw [groupTable_eq, List.pairwise_map]
  exact List.pairwise_map.1 (nodup_keys_gather _ constants)

theorem nodup_headerGroups (constants : List HeaderConstant) : (headerGroups constants).Nodup := by
  have distinct (group : ConstantGroup) : (groupsOf group constants).Nodup :=
    (groupsOf_pairwise group constants).imp fun differ same => differ (congrArg _ same)
  refine List.nodup_append.2 ⟨distinct _, distinct _, fun g flag g' value same => ?_⟩
  have flags := (mem_headerGroups flag).2
  rw [same, (mem_headerGroups value).2] at flags
  cases flags

theorem home?_of_mem {constants : List HeaderConstant} {g : HeaderGroup} {c : HeaderConstant}
    (group : g ∈ headerGroups constants) (member : c ∈ g.constants) :
    c.home? = some (g.group, g.native, g.owner) := by
  rw [(mem_headerGroups_iff.1 group).1] at member
  exact of_decide_eq_true (List.mem_filter.1 member).2

theorem exists_home?_of_mem {constants : List HeaderConstant} {g : HeaderGroup}
    (group : g ∈ headerGroups constants) :
    ∃ c ∈ constants, c.home? = some (g.group, g.native, g.owner) := by
  obtain ⟨all, nonempty⟩ := mem_headerGroups_iff.1 group
  obtain ⟨c, member⟩ := List.exists_mem_of_ne_nil _ nonempty
  refine ⟨c, ?_, home?_of_mem group member⟩
  rw [all] at member
  exact (List.mem_filter.1 member).1

theorem exists_group_of_home? {constants : List HeaderConstant} {c : HeaderConstant}
    {group : ConstantGroup} {native owner : String} (member : c ∈ constants)
    (home : c.home? = some (group, native, owner)) :
    ∃ g ∈ headerGroups constants,
      g.group = group ∧ g.native = native ∧ g.owner = owner ∧ c ∈ g.constants := by
  have inside : c ∈ constants.filter (·.home? = some (group, native, owner)) :=
    List.mem_filter.2 ⟨member, decide_eq_true home⟩
  exact ⟨⟨group, native, owner, _⟩, mem_headerGroups_iff.2 ⟨rfl, List.ne_nil_of_mem inside⟩, rfl,
    rfl, rfl, inside⟩

theorem eq_of_mem_mem {constants : List HeaderConstant} {g g' : HeaderGroup} {c : HeaderConstant}
    (group : g ∈ headerGroups constants) (group' : g' ∈ headerGroups constants)
    (member : c ∈ g.constants) (member' : c ∈ g'.constants) : g = g' := by
  have home := (home?_of_mem group member).symm.trans (home?_of_mem group' member')
  have all := (mem_headerGroups_iff.1 group).1
  have all' := (mem_headerGroups_iff.1 group').1
  obtain ⟨kind, native, owner, members⟩ := g
  obtain ⟨kind', native', owner', members'⟩ := g'
  cases home
  exact congrArg _ (all.trans all'.symm)

theorem exists_stem_of_flags {constants : List HeaderConstant} {g : HeaderGroup}
    (flag : g ∈ groupsOf .flags constants) :
    ∃ stem, g.owner = stem ++ "FlagBits" ∧ g.native = stem ++ "Flags" := by
  obtain ⟨group, flags⟩ := mem_headerGroups flag
  obtain ⟨c, -, home⟩ := exists_home?_of_mem group
  rw [flags] at home
  obtain ⟨-, -, -, -, stem⟩ := home?_eq_some_iff.1 home
  exact stem

theorem native_eq_owner_of_values {constants : List HeaderConstant} {g : HeaderGroup}
    (value : g ∈ groupsOf .values constants) : g.native = g.owner := by
  obtain ⟨group, values⟩ := mem_headerGroups value
  obtain ⟨c, -, home⟩ := exists_home?_of_mem group
  rw [values] at home
  obtain ⟨-, -, -, own, -⟩ := home?_eq_some_iff.1 home
  exact own

theorem flagBits_ne_flags (stem stem' : String) : stem ++ "FlagBits" ≠ stem' ++ "Flags" := by
  intro same
  have reversed := congrArg (fun text => text.toList.reverse) same
  simp at reversed

/-! ## Registering the groups -/

namespace Registry

variable (sourceModule module : String)

def groupRequestOf (g : HeaderGroup) : Request :=
  groupRequest g.native sourceModule module g.group g.constants

def registerGroup (r : Registry) (g : HeaderGroup) : Registry × Option Failure :=
  match g.group with
  | .flags => addFlagGroup sourceModule module r g.native ⟨g.owner, g.constants⟩
  | .values => addValueGroup sourceModule module r g.native ⟨g.owner, g.constants⟩

def registerGroups (r : Registry) : List HeaderGroup → Registry × List Failure
  | [] => (r, [])
  | g :: gs =>
    let first := registerGroup sourceModule module r g
    let rest := registerGroups first.1 gs
    (rest.1, first.2.toList ++ rest.2)

theorem registerGroups_append (r : Registry) (gs gs' : List HeaderGroup) :
    registerGroups sourceModule module r (gs ++ gs') =
      ((registerGroups sourceModule module (registerGroups sourceModule module r gs).1 gs').1,
        (registerGroups sourceModule module r gs).2 ++
          (registerGroups sourceModule module
            (registerGroups sourceModule module r gs).1 gs').2) := by
  induction gs generalizing r with
  | nil => rfl
  | cons g gs ih =>
    rw [List.cons_append, registerGroups, registerGroups, ih, List.append_assoc]

variable {sourceModule module}

theorem addGroups_eq {step : Registry → String → OwnedConstants → Registry × Option Failure}
    {toGroup : String × OwnedConstants → HeaderGroup}
    (registers : ∀ r e, step r e.1 e.2 = registerGroup sourceModule module r (toGroup e))
    (entries : List (String × OwnedConstants)) (r : Registry) :
    addGroups step entries r = registerGroups sourceModule module r (entries.map toGroup) := by
  unfold addGroups
  -- The failures so far stand before those to come.
  suffices ∀ failures : List Failure,
      entries.foldl (fun x e => ((step x.1 e.1 e.2).1, x.2 ++ (step x.1 e.1 e.2).2.toList))
        (r, failures) =
      ((registerGroups sourceModule module r (entries.map toGroup)).1,
        failures ++ (registerGroups sourceModule module r (entries.map toGroup)).2) from this []
  induction entries generalizing r with
  | nil => intro failures; rw [List.map_nil, registerGroups, List.append_nil]; rfl
  | cons e entries ih =>
    intro failures
    rw [List.foldl_cons, List.map_cons, registerGroups, ← registers]
    refine (ih _ _).trans ?_
    rw [List.append_assoc]

theorem addHeader_eq (r : Registry) (b : Bindings) (module : String) :
    r.addHeader b module =
      ((registerGroups b.headerModule module r (headerGroups b.constants)).1,
        ambiguousOwners b.constants ++
          (registerGroups b.headerModule module r (headerGroups b.constants)).2) := by
  have flags (r : Registry) :
      addGroups (addFlagGroup b.headerModule module) (flagGroups b.constants).entries r =
        registerGroups b.headerModule module r (groupsOf .flags b.constants) :=
    addGroups_eq (fun _ _ => rfl) _ r
  have values (r : Registry) :
      addGroups (addValueGroup b.headerModule module) (valueGroups b.constants).entries r =
        registerGroups b.headerModule module r (groupsOf .values b.constants) :=
    addGroups_eq (fun _ _ => rfl) _ r
  simp only [addHeader, flags, values, headerGroups, registerGroups_append, List.append_assoc]

end Registry
end Bindwright
