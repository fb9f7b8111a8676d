import Bindwright.Proofs.Registry.Change

namespace Bindwright

inductive Registration where
  | mapping (native path : String)
  | functionPointer (native path : String)
  | flagBits (native flags : String)
  | request (q : Request)
  | header (b : Bindings) (module : String)

namespace Registry

def register (r : Registry) : Registration → Registry × List Failure
  | .mapping native path => (r.addMapping native path).map id Option.toList
  | .functionPointer native path => (r.addFunctionPointer native path).map id Option.toList
  | .flagBits native flags => (r.addFlagBits native flags).map id Option.toList
  | .request q => (r.addRequest q).map id Option.toList
  | .header b module => r.addHeader b module

def run (r : Registry) (calls : List Registration) : Registry :=
  calls.foldl (fun r call => (r.register call).1) r

def existingPath? (r : Registry) (native : String) : Option String :=
  (r.get? native).bind Mapping.existingPath?

/-! ## What stays in step -/

/-- Names stand for mappings of their own, and the claims are those of the pending requests. -/
structure Consistent (r : Registry) : Prop where
  distinct : r.mappings.keys.Nodup
  own : ∀ name m, r.get? name = some m → m.native = name
  distinctClaims : r.claims.keys.Nodup
  claimed : ∀ path name, r.claims.find? path = some name ↔
    ∃ q, r.get? name = some (.pending q) ∧ q.destination.path = path
  absent : ∀ name q, r.get? name = some (.pending q) → q.destination.path ∉ r.materialized

variable {r s : Registry} {native : String} {m : Mapping}

theorem consistent_withMaterialized (paths : List String) :
    Consistent (.withMaterialized paths) where
  distinct := List.nodup_nil
  own := fun _ _ found => nomatch found
  distinctClaims := List.nodup_nil
  claimed := fun _ _ => iff_of_false (fun found => nomatch found) fun ⟨_, found, _⟩ => nomatch found
  absent := fun _ _ found => nomatch found

theorem Renames.get?_native (renames : Renames r s native m) : s.get? native = some m := by
  rw [renames, if_pos rfl]

theorem Renames.get?_other (renames : Renames r s native m) {name : String}
    (other : name ≠ native) : s.get? name = r.get? name := by
  rw [renames, if_neg other]

theorem Renames.own (renames : Renames r s native m) (own : m.native = native)
    (before : ∀ name m, r.get? name = some m → m.native = name) :
    ∀ name m, s.get? name = some m → m.native = name := by
  intro name m' found
  by_cases same : name = native
  · rw [same, renames.get?_native, Option.some.injEq] at found
    rw [← found, own, same]
  · rw [renames.get?_other same] at found
    exact before name m' found

theorem Renames.pending_iff (renames : Renames r s native m) (settled : m.request? = none)
    {name : String} {q : Request} :
    s.get? name = some (.pending q) ↔ name ≠ native ∧ r.get? name = some (.pending q) := by
  by_cases same : name = native
  · rw [same, renames.get?_native]
    refine iff_of_false (fun found => ?_) (fun found => found.1 rfl)
    cases found
    cases settled
  · rw [renames.get?_other same]
    exact ⟨fun found => ⟨same, found⟩, fun found => found.2⟩

theorem Growth.consistent (growth : Growth r s) (h : Consistent r) : Consistent s := by
  cases growth with
  | same frame lookup claims =>
    refine ⟨frame.distinct h.distinct, ?_, claims ▸ h.distinctClaims, ?_, ?_⟩
    · simpa only [lookup] using h.own
    · simpa only [lookup, claims] using h.claimed
    · simpa only [lookup, frame.materialized] using h.absent
  | named frame native m lookup own settled before claims =>
    have pending {name q} : s.get? name = some (.pending q) ↔ r.get? name = some (.pending q) := by
      rw [lookup.pending_iff settled]
      refine ⟨fun found => found.2, fun found => ⟨fun same => ?_, found⟩⟩
      cases (before _ (same ▸ found)).1
    refine ⟨frame.distinct h.distinct, lookup.own own h.own, claims ▸ h.distinctClaims, ?_, ?_⟩
    · simpa only [pending, claims] using h.claimed
    · simpa only [pending, frame.materialized] using h.absent
  | queued frame q lookup fresh absent free claims =>
    refine ⟨frame.distinct h.distinct, lookup.own rfl h.own,
      claims ▸ Table.nodup_keys_insert h.distinctClaims _ _, ?_, ?_⟩
    · intro path name
      rw [claims, Table.find?_insert]
      by_cases new : path = q.destination.path
      · rw [if_pos new, Option.some.injEq]
        constructor
        · rintro rfl
          exact ⟨q, lookup.get?_native, new.symm⟩
        · rintro ⟨q', found, there⟩
          -- The destination was free, so no other request can be on its way to it.
          by_contra other
          rw [lookup.get?_other (Ne.symm other)] at found
          have claimed := (h.claimed path name).2 ⟨q', found, there⟩
          rw [new, free] at claimed
          cases claimed
      · rw [if_neg new, h.claimed]
        by_cases same : name = q.native
        · rw [same, fresh, lookup.get?_native]
          constructor
          · rintro ⟨q', found, there⟩
            cases found
          · rintro ⟨q', found, there⟩
            cases found
            exact absurd there.symm new
        · rw [lookup.get?_other same]
    · intro name q' found
      rw [frame.materialized]
      by_cases same : name = q.native
      · rw [same, lookup.get?_native, Option.some.injEq, Mapping.pending.injEq] at found
        exact found ▸ absent
      · rw [lookup.get?_other same] at found
        exact h.absent name q' found

theorem Override.consistent {q : Request} (override : Override r s native q m)
    (h : Consistent r) : Consistent s := by
  have pending {name q} :
      s.get? name = some (.pending q) ↔ name ≠ native ∧ r.get? name = some (.pending q) :=
    override.lookup.pending_iff override.settled
  refine ⟨override.frame.distinct h.distinct, override.lookup.own override.own h.own,
    override.claims ▸ Table.nodup_keys_erase h.distinctClaims _, ?_, ?_⟩
  · intro path name
    rw [override.claims, Table.find?_erase]
    by_cases released : path = q.destination.path
    · rw [if_pos released]
      refine iff_of_false (fun found => nomatch found) fun ⟨q', found, there⟩ => ?_
      obtain ⟨other, found⟩ := pending.1 found
      have held := (h.claimed path native).2 ⟨q, override.pending, released.symm⟩
      rw [(h.claimed path name).2 ⟨q', found, there⟩, Option.some.injEq] at held
      exact other held
    · rw [if_neg released, h.claimed]
      simp only [pending]
      refine exists_congr fun q' => and_congr_left fun there => ⟨fun found => ⟨?_, found⟩, And.right⟩
      rintro rfl
      rw [override.pending, Option.some.injEq, Mapping.pending.injEq] at found
      exact released (found ▸ there.symm)
  · intro name q' found
    rw [override.frame.materialized]
    exact h.absent name q' (pending.1 found).2

theorem Grows.consistent (grows : Grows r s) (h : Consistent r) : Consistent s := by
  induction grows with
  | refl => exact h
  | tail _ growth ih => exact growth.consistent ih

theorem register_change (r : Registry) (call : Registration) :
    Grows r (r.register call).1 ∨
      ∃ native path q m, call = .mapping native path ∧
        Override r (r.register call).1 native q m := by
  cases call with
  | mapping native path =>
    rcases addMapping_change r native path with growth | ⟨q, m, override⟩
    · exact .inl (.single growth)
    · exact .inr ⟨native, path, q, m, rfl, override⟩
  | functionPointer native path => exact .inl (.single (addFunctionPointer_growth r native path))
  | flagBits native flags => exact .inl (.single (addFlagBits_growth r native flags))
  | request q => exact .inl (.single (addRequest_growth r q))
  | header b module => exact .inl (addHeader_grows r b module)

theorem Consistent.register (h : Consistent r) (call : Registration) :
    Consistent (r.register call).1 := by
  rcases register_change r call with grows | ⟨native, path, q, m, -, override⟩
  · exact grows.consistent h
  · exact override.consistent h

theorem Consistent.run (h : Consistent r) (calls : List Registration) :
    Consistent (r.run calls) := by
  induction calls generalizing r with
  | nil => exact h
  | cons call calls ih => exact ih (h.register call)

/-! ## What is kept -/

/-- From `r` to `s` no name and no existing type is lost, and no pending request but those of the
names in `lost`. -/
structure Keeps (lost : Set String) (r s : Registry) : Prop where
  path : ∀ native path, r.existingPath? native = some path → s.existingPath? native = some path
  name : ∀ native, (r.get? native).isSome → (s.get? native).isSome
  pending : ∀ native q, native ∉ lost →
    r.get? native = some (.pending q) → s.get? native = some (.pending q)

variable {lost : Set String}

theorem Keeps.refl (lost : Set String) (r : Registry) : Keeps lost r r :=
  ⟨fun _ _ h => h, fun _ h => h, fun _ _ _ h => h⟩

theorem Keeps.trans {t : Registry} (first : Keeps lost r s) (second : Keeps lost s t) :
    Keeps lost r t where
  path native path found := second.path native path (first.path native path found)
  name native found := second.name native (first.name native found)
  pending native q kept found := second.pending native q kept (first.pending native q kept found)

theorem Renames.keeps (renames : Renames r s native m)
    (path : ∀ p, r.existingPath? native = some p → m.existingPath? = some p)
    (pending : native ∉ lost → ∀ q, r.get? native = some (.pending q) → m = .pending q) :
    Keeps lost r s := by
  refine ⟨fun name p found => ?_, fun name found => ?_, fun name q kept found => ?_⟩
  · by_cases same : name = native
    · rw [same] at found ⊢
      rw [existingPath?, renames.get?_native]
      exact path p found
    · rwa [existingPath?, renames.get?_other same]
  · by_cases same : name = native
    · rw [same, renames.get?_native]
      rfl
    · rwa [renames.get?_other same]
  · by_cases same : name = native
    · rw [same] at kept found ⊢
      rw [renames.get?_native, pending kept q found]
    · rwa [renames.get?_other same]

theorem Growth.keeps (growth : Growth r s) : Keeps lost r s := by
  cases growth with
  | same frame lookup claims =>
    refine ⟨fun name p found => ?_, fun name found => ?_, fun name q _ found => ?_⟩
    · rwa [existingPath?, lookup]
    · rwa [lookup]
    · rwa [lookup]
  | named frame native m lookup own settled before claims =>
    refine lookup.keeps (fun p found => ?_) fun _ q found => ?_
    · obtain ⟨old, here, path⟩ := Option.bind_eq_some_iff.1 found
      exact (before old here).2 p path
    · cases (before _ found).1
  | queued frame q lookup fresh absent free claims =>
    refine lookup.keeps (fun p found => ?_) fun _ q' found => ?_
    · rw [existingPath?, fresh] at found
      cases found
    · rw [fresh] at found
      cases found

theorem Override.keeps {q : Request} (override : Override r s native q m)
    (member : native ∈ lost) : Keeps lost r s := by
  refine override.lookup.keeps (fun p found => ?_) fun kept => absurd member kept
  rw [existingPath?, override.pending] at found
  cases found

theorem Grows.keeps (grows : Grows r s) : Keeps lost r s := by
  induction grows with
  | refl => exact .refl lost r
  | tail _ growth ih => exact ih.trans growth.keeps

def mapped (calls : List Registration) : Set String :=
  {native | ∃ path, .mapping native path ∈ calls}

theorem run_keeps (r : Registry) (calls : List Registration) {lost : Set String}
    (within : mapped calls ⊆ lost) : Keeps lost r (r.run calls) := by
  induction calls generalizing r with
  | nil => exact .refl lost r
  | cons call calls ih =>
    have rest : mapped calls ⊆ lost :=
      fun native ⟨path, member⟩ => within ⟨path, List.mem_cons_of_mem _ member⟩
    have first : Keeps lost r (r.register call).1 := by
      rcases register_change r call with grows | ⟨native, path, q, m, rfl, override⟩
      · exact grows.keeps
      · exact override.keeps (within ⟨path, List.mem_cons_self⟩)
    exact first.trans (ih _ rest)

/-! ## Requests and claims -/

theorem request?_eq_some_iff {m : Mapping} {q : Request} :
    m.request? = some q ↔ m = .pending q := by
  cases m <;> simp [Mapping.request?]

theorem Consistent.own_entries (h : Consistent r) {entry : String × Mapping}
    (member : entry ∈ r.mappings.entries) : entry.2.native = entry.1 :=
  h.own entry.1 entry.2 ((Table.mem_entries_iff h.distinct).1 member)

theorem Consistent.mem_requests_iff (h : Consistent r) {q : Request} :
    q ∈ r.requests ↔ r.get? q.native = some (.pending q) := by
  simp only [requests, Table.values, List.mem_filterMap, List.mem_map, request?_eq_some_iff]
  constructor
  · rintro ⟨m, ⟨⟨name, m'⟩, member, rfl⟩, rfl⟩
    have own : q.native = name := h.own_entries member
    rw [own]
    exact (Table.mem_entries_iff h.distinct).1 member
  · intro found
    exact ⟨_, ⟨_, (Table.mem_entries_iff h.distinct).2 found, rfl⟩, rfl⟩

theorem Consistent.nodup_destinations (h : Consistent r) :
    (r.requests.map (·.destination.path)).Nodup := by
  have names : r.mappings.entries.Pairwise (·.1 ≠ ·.1) := List.pairwise_map.1 h.distinct
  refine List.pairwise_map.2 (List.pairwise_filterMap.2 (List.pairwise_map.2 ?_))
  refine names.imp_of_mem fun {entry other} member member' differ q isQ q' isQ' same => differ ?_
  rw [request?_eq_some_iff] at isQ isQ'
  -- Both requests would claim one destination.
  have first := (h.claimed q.destination.path entry.1).2
    ⟨q, isQ ▸ (Table.mem_entries_iff h.distinct).1 member, rfl⟩
  have second := (h.claimed q.destination.path other.1).2
    ⟨q', isQ' ▸ (Table.mem_entries_iff h.distinct).1 member', same.symm⟩
  exact Option.some.inj (first.symm.trans second)

theorem Consistent.claims_perm (h : Consistent r) :
    r.claims.entries.Perm (r.requests.map fun q => (q.destination.path, q.native)) := by
  have claims : r.claims.entries.Nodup := List.Nodup.of_map _ h.distinctClaims
  have requests : (r.requests.map fun q => (q.destination.path, q.native)).Nodup := by
    refine List.Nodup.of_map Prod.fst ?_
    rw [List.map_map]
    exact h.nodup_destinations
  refine (List.perm_ext_iff_of_nodup claims requests).2 fun ⟨path, name⟩ => ?_
  rw [Table.mem_entries_iff h.distinctClaims, h.claimed, List.mem_map]
  simp only [h.mem_requests_iff, Prod.mk.injEq]
  constructor
  · rintro ⟨q, found, there⟩
    have own : q.native = name := h.own name _ found
    exact ⟨q, own ▸ found, there, own⟩
  · rintro ⟨q, found, there, rfl⟩
    exact ⟨q, found, there⟩

theorem Growth.frame (growth : Growth r s) : Frame r s := by
  cases growth <;> assumption

theorem Grows.materialized (grows : Grows r s) : s.materialized = r.materialized := by
  induction grows with
  | refl => rfl
  | tail _ growth ih => exact growth.frame.materialized.trans ih

theorem materialized_run (r : Registry) (calls : List Registration) :
    (r.run calls).materialized = r.materialized := by
  induction calls generalizing r with
  | nil => rfl
  | cons call calls ih =>
    refine (ih _).trans ?_
    rcases register_change r call with grows | ⟨native, path, q, m, -, override⟩
    · exact grows.materialized
    · exact override.frame.materialized

/-! ## Runs from an empty registry -/

/-- In each registry `r` that registrations lead to, and each later one `s`, whatever calls fail:
names stand for mappings of their own; the claims are those of the pending requests, of which no two
have one destination and none one that exists; a request that is mapped away frees its destination;
existing types and names stay; and a pending request stays unless its own name is mapped. -/
theorem run_keeps_in_step (paths : List String) (before after : List Registration) :
    let r := (withMaterialized paths).run before
    let s := r.run after
    (∀ entry ∈ r.mappings.entries, entry.2.native = entry.1) ∧
      r.claims.entries.Perm (r.requests.map fun q => (q.destination.path, q.native)) ∧
      (r.requests.map (·.destination.path)).Nodup ∧
      (∀ native q path, r.get? native = some (.pending q) →
        (r.addMapping native path).1.claims.find? q.destination.path = none) ∧
      (∀ q ∈ r.requests, q.destination.path ∉ paths) ∧
      (∀ native path, r.existingPath? native = some path → s.existingPath? native = some path) ∧
      (∀ native, (r.get? native).isSome → (s.get? native).isSome) ∧
      (∀ native q, r.get? native = some (.pending q) →
        (∀ path, .mapping native path ∉ after) → s.get? native = some (.pending q)) := by
  intro r s
  have h : Consistent r := (consistent_withMaterialized paths).run before
  have keeps : Keeps (mapped after) r s := run_keeps r after fun _ member => member
  refine ⟨fun entry => h.own_entries, h.claims_perm, h.nodup_destinations, ?_, ?_, keeps.path,
    keeps.name, ?_⟩
  · intro native q path pending
    obtain ⟨⟨m, override⟩, -⟩ := addMapping_of_pending path pending
    rw [override.claims, Table.find?_erase, if_pos rfl]
  · intro q member
    have absent := h.absent q.native q (h.mem_requests_iff.1 member)
    rwa [materialized_run] at absent
  · intro native q pending never
    exact keeps.pending native q (fun ⟨path, member⟩ => never path member) pending

end Registry
end Bindwright
