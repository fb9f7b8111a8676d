import Bindwright.Proofs.Registry.Fates

/-!
# Conflicts within a header

In an empty registry the groups of a well-formed header get in each other's way at one place only:
the values of an owner are rejected if bits have made its name stand for flags or for a bit
(`wellFormed_header_conflicts`). So it is with an owner `…FlagBits` of bits and of other constants
(`bits_and_values_conflict`).
-/

namespace Bindwright

open Naming (ConstantGroup)

namespace HeaderGroup

def typeName (g : HeaderGroup) : String := g.group.typeName g.native

def variants (g : HeaderGroup) : List String := variantNames g.group g.typeName g.constants

end HeaderGroup

/-- Each constant that belongs to an owner names one, the variants of a group differ, and so do the
types that the constants of different owners become. -/
structure WellFormed (constants : List HeaderConstant) : Prop where
  owned : ∀ c ∈ constants, c.isCandidate = true → c.owners.length = 1
  variants : ∀ g ∈ headerGroups constants, g.variants.Nodup
  types : ∀ g ∈ headerGroups constants, ∀ g' ∈ headerGroups constants,
    g.owner ≠ g'.owner → g.typeName ≠ g'.typeName

theorem firstClash?_eq_none {variantOf : HeaderConstant → String}
    {seen : List (String × HeaderConstant)} {constants : List HeaderConstant}
    (new : ∀ c ∈ constants, seen.lookup (variantOf c) = none)
    (distinct : (constants.map variantOf).Nodup) : firstClash? variantOf seen constants = none := by
  induction constants generalizing seen with
  | nil => rfl
  | cons c cs ih =>
    obtain ⟨here, rest⟩ := List.forall_mem_cons.1 new
    obtain ⟨differ, distinct⟩ := List.nodup_cons.1 distinct
    rw [firstClash?, here]
    refine ih (fun c' member => ?_) distinct
    have other : variantOf c' ≠ variantOf c := fun same =>
      differ (same ▸ List.mem_map_of_mem member)
    rw [List.lookup_cons, beq_false_of_ne other]
    exact rest c' member

namespace Registry

section Standing

variable (sourceModule module : String)

def mappingOf? (g : HeaderGroup) (name : String) : Option Mapping :=
  if name = g.native then some (.pending (groupRequestOf sourceModule module g))
  else if g.group = .flags ∧ name = g.owner then some (.flagBits g.owner g.native)
  else none

def standing? (groups : List HeaderGroup) (name : String) : Option Mapping :=
  groups.findSome? fun g => mappingOf? sourceModule module g name

/-- The registry holds what the groups say and nothing else. -/
structure Standing (groups : List HeaderGroup) (r : Registry) : Prop where
  lookup : ∀ name, r.get? name = standing? sourceModule module groups name
  claimed : ∀ path claimer, r.claims.find? path = some claimer →
    ∃ g ∈ groups, (groupRequestOf sourceModule module g).destination.path = path
  materialized : r.materialized = []

variable {sourceModule module : String} {groups : List HeaderGroup} {g : HeaderGroup}

theorem standing?_concat (groups : List HeaderGroup) (g : HeaderGroup) (name : String) :
    standing? sourceModule module (groups ++ [g]) name =
      (standing? sourceModule module groups name).or (mappingOf? sourceModule module g name) := by
  unfold standing?
  rw [List.findSome?_append, List.findSome?_singleton]

theorem existingPath?_of_standing {name : String} {m : Mapping}
    (found : standing? sourceModule module groups name = some m) : m.existingPath? = none := by
  obtain ⟨g, -, given⟩ := List.exists_of_findSome?_eq_some found
  unfold mappingOf? at given
  split at given
  · cases given
    rfl
  · split at given
    · cases given
      rfl
    · cases given

theorem registerGroup_of_nodup (r : Registry) (distinct : g.variants.Nodup) :
    registerGroup sourceModule module r g =
      match Registry.addRequest { r with notes := r.notes ++ sharedValues [] g.constants }
          (groupRequestOf sourceModule module g) with
      | (s, none) =>
        match g.group with
        | .flags => s.addFlagBits g.owner g.native
        | .values => (s, none)
      | failed => failed := by
  obtain ⟨group, native, owner, constants⟩ := g
  have clash : firstClash? (group.variantName (group.typeName native) ·.name) [] constants = none :=
    firstClash?_eq_none (fun _ _ => rfl) distinct
  cases group with
  | flags =>
    simp only [registerGroup, addFlagGroup, addGroup, clash, foldl_addDiagnostic]
    rfl
  | values =>
    simp only [registerGroup, addValueGroup, addGroup, clash, foldl_addDiagnostic, groupRequestOf]
    generalize Registry.addRequest _ _ = outcome
    obtain ⟨s, failure⟩ := outcome
    cases failure <;> rfl

theorem Standing.noted {r : Registry} (standing : Standing sourceModule module groups r)
    (notes : List Diagnostic) : Standing sourceModule module groups { r with notes } :=
  ⟨standing.lookup, standing.claimed, standing.materialized⟩

theorem Standing.reject {r : Registry} (standing : Standing sourceModule module groups r)
    (values : g.group = .values) (distinct : g.variants.Nodup) {m : Mapping}
    (taken : standing? sourceModule module groups g.native = some m) :
    (registerGroup sourceModule module r g).2 = some (alreadyMapped g.native m) ∧
      Standing sourceModule module (groups ++ [g]) (registerGroup sourceModule module r g).1 := by
  have noted := standing.noted (r.notes ++ sharedValues [] g.constants)
  have mapped := addRequest_of_some (q := groupRequestOf sourceModule module g)
    ((noted.lookup g.native).trans taken) (existingPath?_of_standing taken)
  rw [registerGroup_of_nodup r distinct, mapped]
  refine ⟨rfl, fun name => ?_, fun path claimer found => ?_, noted.materialized⟩
  · rw [noted.lookup, standing?_concat, mappingOf?]
    by_cases here : name = g.native
    · rw [here, taken]
      rfl
    · simp [here, values]
  · obtain ⟨g', member, there⟩ := noted.claimed path claimer found
    exact ⟨g', List.mem_append_left _ member, there⟩

theorem Standing.extend {r s : Registry} (standing : Standing sourceModule module groups r)
    (lookup : ∀ name, s.get? name = (r.get? name).or (mappingOf? sourceModule module g name))
    (claims : s.claims =
      r.claims.insert (groupRequestOf sourceModule module g).destination.path g.native)
    (materialized : s.materialized = r.materialized) :
    Standing sourceModule module (groups ++ [g]) s where
  lookup name := by rw [lookup, standing.lookup, standing?_concat]
  claimed path claimer found := by
    rw [claims, Table.find?_insert] at found
    split at found
    · rename_i here
      exact ⟨g, List.mem_append_right _ List.mem_cons_self, here.symm⟩
    · obtain ⟨g', member, there⟩ := standing.claimed path claimer found
      exact ⟨g', List.mem_append_left _ member, there⟩
  materialized := materialized.trans standing.materialized

theorem Standing.queue {r : Registry} (standing : Standing sourceModule module groups r)
    (distinct : g.variants.Nodup)
    (fresh : standing? sourceModule module groups g.native = none)
    (types : ∀ g' ∈ groups, g'.typeName ≠ g.typeName)
    (owner : g.group = .flags →
      g.owner ≠ g.native ∧ standing? sourceModule module groups g.owner = none) :
    (registerGroup sourceModule module r g).2 = none ∧
      Standing sourceModule module (groups ++ [g]) (registerGroup sourceModule module r g).1 := by
  have noted := standing.noted (r.notes ++ sharedValues [] g.constants)
  generalize warned : { r with notes := r.notes ++ sharedValues [] g.constants } = r' at noted
  have new : r'.get? g.native = none := (noted.lookup g.native).trans fresh
  have unclaimed :
      r'.claims.find? (groupRequestOf sourceModule module g).destination.path = none := by
    rw [Option.eq_none_iff_forall_ne_some]
    intro claimer found
    obtain ⟨g', member, there⟩ := noted.claimed _ claimer found
    exact types g' member ((String.append_right_inj (module ++ "::")).1 there)
  have queued := addRequest_of_none (q := groupRequestOf sourceModule module g) new
    (noted.materialized ▸ List.not_mem_nil) unclaimed
  have renames : Renames r' (r'.queue (groupRequestOf sourceModule module g)) g.native
    (.pending (groupRequestOf sourceModule module g)) := renames_queue r' _
  rw [registerGroup_of_nodup r distinct, warned, queued]
  cases kind : g.group with
  | values =>
    refine ⟨rfl, noted.extend (fun name => ?_) rfl rfl⟩
    rw [renames, mappingOf?]
    by_cases here : name = g.native
    · simp [here, new]
    · simp [here, kind]
  | flags =>
    obtain ⟨other, unowned⟩ := owner kind
    have new' : r'.get? g.owner = none := (noted.lookup g.owner).trans unowned
    -- Flags take two names, their own and their owner's.
    have taken : (r'.queue (groupRequestOf sourceModule module g)).addFlagBits g.owner g.native =
        ((r'.queue (groupRequestOf sourceModule module g)).put g.owner
          (.flagBits g.owner g.native), none) := by
      unfold addFlagBits
      rw [renames.get?_other other, new']
    dsimp only
    rw [taken]
    refine ⟨rfl, noted.extend (fun name => ?_) rfl rfl⟩
    rw [renames_put, renames, mappingOf?]
    by_cases own : name = g.owner
    · simp [own, other, kind, new']
    · by_cases here : name = g.native
      · simp [here, other.symm, new]
      · simp [own, here]

/-! ## All groups of a well-formed header -/

variable {constants : List HeaderConstant}

theorem standing?_eq_none {name : String}
    (silent : ∀ g ∈ groups, mappingOf? sourceModule module g name = none) :
    standing? sourceModule module groups name = none :=
  List.findSome?_eq_none_iff.2 silent

theorem owner_ne_of_native_ne {group : ConstantGroup} {g' : HeaderGroup}
    (member : g ∈ groupsOf group constants) (member' : g' ∈ groupsOf group constants)
    (differ : g.native ≠ g'.native) : g.owner ≠ g'.owner := by
  intro same
  cases group with
  | flags =>
    obtain ⟨stem, owner, native⟩ := exists_stem_of_flags member
    obtain ⟨stem', owner', native'⟩ := exists_stem_of_flags member'
    rw [owner, owner', String.append_left_inj] at same
    exact differ (native.trans (same ▸ native'.symm))
  | values =>
    exact differ ((native_eq_owner_of_values member).trans
      (same.trans (native_eq_owner_of_values member').symm))

theorem mappingOf?_eq_none_iff {f : HeaderGroup} {name : String} (flags : f.group = .flags) :
    mappingOf? sourceModule module f name = none ↔ name ≠ f.native ∧ name ≠ f.owner := by
  unfold mappingOf?
  by_cases here : name = f.native
  · simp [here]
  · by_cases own : name = f.owner
    · rw [if_neg here, if_pos ⟨flags, own⟩]
      simp [own]
    · simp [here, own]

theorem mappingOf?_of_flags {f : HeaderGroup} (flag : f ∈ groupsOf .flags constants)
    (flag' : g ∈ groupsOf .flags constants) (differ : f.native ≠ g.native) :
    mappingOf? sourceModule module f g.native = none ∧
      mappingOf? sourceModule module f g.owner = none := by
  have owners := owner_ne_of_native_ne flag flag' differ
  obtain ⟨stem, owner, native⟩ := exists_stem_of_flags flag
  obtain ⟨stem', owner', native'⟩ := exists_stem_of_flags flag'
  have first : g.native ≠ f.owner := owner ▸ native' ▸ (flagBits_ne_flags stem stem').symm
  have second : g.owner ≠ f.native := owner' ▸ native ▸ flagBits_ne_flags stem' stem
  rw [mappingOf?_eq_none_iff (mem_headerGroups flag).2,
    mappingOf?_eq_none_iff (mem_headerGroups flag).2]
  exact ⟨⟨differ.symm, first⟩, second, owners.symm⟩

theorem apart_of_split (wf : WellFormed constants) {group : ConstantGroup} {gs : List HeaderGroup}
    (split : groupsOf group constants = groups ++ g :: gs) :
    g ∈ groupsOf group constants ∧ ∀ f ∈ groups, f ∈ groupsOf group constants ∧
      f.native ≠ g.native ∧ f.typeName ≠ g.typeName := by
  have member : g ∈ groupsOf group constants :=
    split ▸ List.mem_append_right _ List.mem_cons_self
  refine ⟨member, fun f earlier => ?_⟩
  have member' : f ∈ groupsOf group constants := split ▸ List.mem_append_left _ earlier
  have differ : f.native ≠ g.native :=
    (List.pairwise_append.1 (split ▸ groupsOf_pairwise group constants)).2.2 f earlier g
      List.mem_cons_self
  exact ⟨member', differ, wf.types f (mem_headerGroups member').1 g (mem_headerGroups member).1
    (owner_ne_of_native_ne member' member differ)⟩

theorem Standing.queue_flags (wf : WellFormed constants) {gs : List HeaderGroup} {r : Registry}
    (split : groupsOf .flags constants = groups ++ gs)
    (standing : Standing sourceModule module groups r) :
    (registerGroups sourceModule module r gs).2 = [] ∧
      Standing sourceModule module (groupsOf .flags constants)
        (registerGroups sourceModule module r gs).1 := by
  induction gs generalizing groups r with
  | nil =>
    rw [split, List.append_nil]
    exact ⟨rfl, standing⟩
  | cons g gs ih =>
    obtain ⟨flag, earlier⟩ := apart_of_split wf split
    have silent (f : HeaderGroup) (member : f ∈ groups) :
        mappingOf? sourceModule module f g.native = none ∧
          mappingOf? sourceModule module f g.owner = none :=
      mappingOf?_of_flags (earlier f member).1 flag (earlier f member).2.1
    obtain ⟨stem, owner, native⟩ := exists_stem_of_flags flag
    obtain ⟨accepted, standing⟩ := standing.queue (wf.variants g (mem_headerGroups flag).1)
      (standing?_eq_none fun f member => (silent f member).1)
      (fun f member => (earlier f member).2.2)
      (fun _ => ⟨owner ▸ native ▸ flagBits_ne_flags stem stem,
        standing?_eq_none fun f member => (silent f member).2⟩)
    obtain ⟨rest, standing⟩ := ih (split.trans (List.append_cons ..)) standing
    rw [registerGroups, accepted, rest]
    exact ⟨rfl, standing⟩

theorem Standing.queue_values (wf : WellFormed constants) {gs : List HeaderGroup} {r : Registry}
    (split : groupsOf .values constants = groups ++ gs)
    (standing : Standing sourceModule module (groupsOf .flags constants ++ groups) r) :
    (registerGroups sourceModule module r gs).2 = gs.filterMap (fun g =>
        (standing? sourceModule module (groupsOf .flags constants) g.native).map
          (alreadyMapped g.native)) ∧
      Standing sourceModule module (headerGroups constants)
        (registerGroups sourceModule module r gs).1 := by
  induction gs generalizing groups r with
  | nil =>
    rw [headerGroups, split, List.append_nil]
    exact ⟨rfl, standing⟩
  | cons g gs ih =>
    obtain ⟨value, earlier⟩ := apart_of_split wf split
    obtain ⟨group, values⟩ := mem_headerGroups value
    have distinct := wf.variants g group
    have split' : groupsOf .values constants = (groups ++ [g]) ++ gs :=
      split.trans (List.append_cons ..)
    -- No two groups of values have one name, so only flags can have taken it.
    have silent : standing? sourceModule module groups g.native = none := by
      refine standing?_eq_none fun v member => ?_
      obtain ⟨value', differ, -⟩ := earlier v member
      simp [mappingOf?, differ.symm, (mem_headerGroups value').2]
    have unchanged : standing? sourceModule module (groupsOf .flags constants ++ groups) g.native =
        standing? sourceModule module (groupsOf .flags constants) g.native := by
      rw [standing?, List.findSome?_append, ← standing?, ← standing?, silent, Option.or_none]
    rw [registerGroups, List.filterMap_cons]
    cases taken : standing? sourceModule module (groupsOf .flags constants) g.native with
    | some m =>
      obtain ⟨rejected, standing⟩ := standing.reject values distinct (unchanged.trans taken)
      rw [List.append_assoc] at standing
      obtain ⟨rest, standing⟩ := ih split' standing
      rw [rejected, rest]
      exact ⟨rfl, standing⟩
    | none =>
      have types (g' : HeaderGroup) (member : g' ∈ groupsOf .flags constants ++ groups) :
          g'.typeName ≠ g.typeName := by
        rcases List.mem_append.1 member with flag | before
        · refine wf.types g' (mem_headerGroups flag).1 g group fun same => ?_
          have unnamed := List.findSome?_eq_none_iff.1 taken g' flag
          rw [mappingOf?_eq_none_iff (mem_headerGroups flag).2] at unnamed
          exact unnamed.2 ((native_eq_owner_of_values value).trans same.symm)
        · exact (earlier g' before).2.2
      obtain ⟨accepted, standing⟩ := standing.queue distinct (unchanged.trans taken) types
        (fun flags => absurd (values.symm.trans flags) (by decide))
      rw [List.append_assoc] at standing
      obtain ⟨rest, standing⟩ := ih split' standing
      rw [accepted, rest]
      exact ⟨rfl, standing⟩

end Standing

theorem ambiguousOwners_of_wellFormed {constants : List HeaderConstant}
    (wf : WellFormed constants) : ambiguousOwners constants = [] := by
  rw [ambiguousOwners_eq, List.map_eq_nil_iff, List.filter_eq_nil_iff]
  intro c member several
  rw [Bool.and_eq_true, bne_iff_ne] at several
  exact several.2 (wf.owned c member several.1)

/-- The registry that a well-formed header gives and the failures on the way. All flag groups are
queued, and each group of values unless its name is that of a flag group or of its owner: these
groups fail, in order, and nothing else does. -/
theorem wellFormed_header_conflicts (b : Bindings) (module : String)
    (wf : WellFormed b.constants) :
    let outcome := (withMaterialized []).addHeader b module
    let flags := groupsOf .flags b.constants
    let values := groupsOf .values b.constants
    (∀ name, outcome.1.get? name = standing? b.headerModule module (flags ++ values) name) ∧
      outcome.2 = values.filterMap (fun v =>
        (standing? b.headerModule module flags v.native).map (alreadyMapped v.native)) ∧
      (outcome.2 = [] ↔
        ∀ v ∈ values, ∀ f ∈ flags, v.native ≠ f.native ∧ v.native ≠ f.owner) := by
  have empty : Standing b.headerModule module [] (withMaterialized []) :=
    ⟨fun _ => rfl, nofun, rfl⟩
  obtain ⟨accepted, standing⟩ := empty.queue_flags wf (List.nil_append _).symm
  rw [← List.append_nil (groupsOf .flags b.constants)] at standing
  obtain ⟨failures, standing⟩ := standing.queue_values wf (List.nil_append _).symm
  rw [List.append_nil] at failures standing
  rw [addHeader_eq, headerGroups, registerGroups_append, accepted, failures,
    ambiguousOwners_of_wellFormed wf]
  refine ⟨standing.lookup, rfl, ?_⟩
  simp only [List.nil_append, List.filterMap_eq_nil_iff, Option.map_eq_none_iff]
  refine forall₂_congr fun v _ => ?_
  unfold standing?
  rw [List.findSome?_eq_none_iff]
  exact forall₂_congr fun f flag => mappingOf?_eq_none_iff (mem_headerGroups flag).2

theorem wellFormed_pair {bit value : HeaderConstant} {native owner name : String}
    (flags : bit.placement = .flags native owner) (values : value.placement = .values name)
    (types : owner ≠ name → Naming.flagName native ≠ Naming.structureName name) :
    WellFormed [bit, value] where
  owned c member candidate := by
    by_contra several
    have ambiguous := placement_eq_ambiguous_iff.2 ⟨candidate, several, rfl⟩
    rcases List.mem_pair.1 member with rfl | rfl
    · cases flags.symm.trans ambiguous
    · cases values.symm.trans ambiguous
  variants g member := by
    rw [headerGroups_pair flags values] at member
    rcases List.mem_pair.1 member with rfl | rfl
    · exact List.nodup_singleton _
    · exact List.nodup_singleton _
  types g member g' member' differ := by
    rw [headerGroups_pair flags values] at member member'
    rcases List.mem_pair.1 member with rfl | rfl <;>
      rcases List.mem_pair.1 member' with rfl | rfl
    · exact absurd rfl differ
    · exact types differ
    · exact (types differ.symm).symm
    · exact absurd rfl differ

theorem wellFormed_header_conflicts_none :
    WellFormed [queueBit, formatValue] ∧
      ((withMaterialized []).addHeader (headerOf [queueBit, formatValue]) "crate::vk").2 = [] := by
  have wf : WellFormed [queueBit, formatValue] :=
    wellFormed_pair queueBit_placement formatValue_placement fun _ => by decide +kernel
  obtain ⟨-, -, accepted⟩ :=
    wellFormed_header_conflicts (headerOf [queueBit, formatValue]) "crate::vk" wf
  obtain ⟨bits, formats⟩ := groupsOf_pair queueBit_placement formatValue_placement
  have apart : ∀ v ∈ groupsOf .values [queueBit, formatValue],
      ∀ f ∈ groupsOf .flags [queueBit, formatValue],
        v.native ≠ f.native ∧ v.native ≠ f.owner := by
    rw [bits, formats]
    decide
  exact ⟨wf, accepted.2 apart⟩

def frontBit : HeaderConstant := ownedConstant "VkCullModeFlagBits" "VK_CULL_MODE_FRONT_BIT"

def noneValue : HeaderConstant := ownedConstant "VkCullModeFlagBits" "VK_CULL_MODE_NONE"

theorem frontBit_placement :
    frontBit.placement = .flags "VkCullModeFlags" "VkCullModeFlagBits" := by
  decide +kernel

theorem noneValue_placement : noneValue.placement = .values "VkCullModeFlagBits" := by
  decide +kernel

/-- A header is well-formed if an owner `…FlagBits` has a bit and another constant, whose variants
differ, and fails all the same: the name of the owner stands for the bit before its values come. -/
theorem bits_and_values_conflict :
    WellFormed [frontBit, noneValue] ∧
      ((headerGroups [frontBit, noneValue]).flatMap HeaderGroup.variants).Nodup ∧
      ((withMaterialized []).addHeader (headerOf [frontBit, noneValue]) "crate::vk").2 =
        [alreadyMapped "VkCullModeFlagBits"
          (.flagBits "VkCullModeFlagBits" "VkCullModeFlags")] := by
  have groups := headerGroups_pair frontBit_placement noneValue_placement
  have owned := ambiguousOwners_pair frontBit_placement noneValue_placement
  refine ⟨wellFormed_pair frontBit_placement noneValue_placement (absurd rfl), ?_, ?_⟩
  · rw [groups]
    decide +kernel
  · rw [addHeader_eq]
    dsimp only [headerOf]
    rw [groups, owned]
    decide +kernel

end Registry
end Bindwright
