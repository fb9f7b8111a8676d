import Bindwright.Proofs.Registry.Alike
import Bindwright.Proofs.Registry.Run
import Bindwright.Run.Population

namespace Bindwright

structure ExplicitMapping where
  native : String
  path : String
  location : Location

def Override.explicit (o : Override) : ExplicitMapping := ⟨o.native, o.target, .unknown⟩

def ScannedMapping.explicit (m : ScannedMapping) : ExplicitMapping := ⟨m.key, m.path, m.location⟩

def Plan.explicit (p : Plan) : List ExplicitMapping :=
  p.overrides.map Override.explicit ++ p.scanned.map ScannedMapping.explicit

def firsts {α : Type} (name : α → String) : (seen : List String) → List α → List α
  | _, [] => []
  | seen, a :: as =>
    if name a ∈ seen then firsts name (seen ++ [name a]) as
    else a :: firsts name (seen ++ [name a]) as

def Plan.withoutRepeats (p : Plan) : Plan :=
  { p with
    overrides := firsts Override.native [] p.overrides
    scanned := firsts ScannedMapping.key (p.overrides.map Override.native) p.scanned }

namespace ExplicitMapping

def firstPath? (es : List ExplicitMapping) (native : String) : Option String :=
  (es.find? (·.native = native)).map (·.path)

def report? (earlier : List ExplicitMapping) (e : ExplicitMapping) : Option Diagnostic :=
  (firstPath? earlier e.native).map fun path =>
    ⟨.error, (Registry.alreadyMapped e.native (.existing e.native path)).message, e.location,
      some "W0004"⟩

def reports : (earlier : List ExplicitMapping) → List ExplicitMapping → List Diagnostic
  | _, [] => []
  | earlier, e :: es => (report? earlier e).toList ++ reports (earlier ++ [e]) es

theorem firstPath?_concat (es : List ExplicitMapping) (e : ExplicitMapping) (native : String) :
    firstPath? (es ++ [e]) native =
      (firstPath? es native).or (if e.native = native then some e.path else none) := by
  unfold firstPath?
  rw [List.find?_append, Option.map_or]
  by_cases same : e.native = native <;> simp [same]

theorem firstPath?_eq_none_iff {es : List ExplicitMapping} {native : String} :
    firstPath? es native = none ↔ native ∉ es.map ExplicitMapping.native := by
  simp [firstPath?]

end ExplicitMapping

open ExplicitMapping

/-! ## A plan without repeats -/

section Firsts

variable {α β : Type} (name : α → String)

theorem firsts_append (seen : List String) (as bs : List α) :
    firsts name seen (as ++ bs) = firsts name seen as ++ firsts name (seen ++ as.map name) bs := by
  induction as generalizing seen with
  | nil => simp [firsts]
  | cons a as ih =>
    have rest := ih (seen ++ [name a])
    rw [List.append_assoc, List.singleton_append] at rest
    rw [List.cons_append, firsts, firsts, List.map_cons, rest]
    split <;> rfl

theorem firsts_map (f : β → α) (seen : List String) (bs : List β) :
    firsts name seen (bs.map f) = (firsts (name ∘ f) seen bs).map f := by
  induction bs generalizing seen with
  | nil => rfl
  | cons b bs ih =>
    rw [List.map_cons, firsts, firsts, ih]
    simp only [Function.comp_apply]
    split <;> rfl

theorem find?_firsts {seen : List String} {n : String} (new : n ∉ seen) (as : List α) :
    (firsts name seen as).find? (name · = n) = as.find? (name · = n) := by
  induction as generalizing seen with
  | nil => rfl
  | cons a as ih =>
    rw [firsts]
    by_cases here : name a = n
    · rw [if_neg (here ▸ new)]
      simp [here]
    · have rest := ih (show n ∉ seen ++ [name a] by simp [new, Ne.symm here])
      split <;> simp [here, rest]

end Firsts

theorem Plan.explicit_withoutRepeats (p : Plan) :
    p.withoutRepeats.explicit = firsts ExplicitMapping.native [] p.explicit := by
  simp only [Plan.explicit, Plan.withoutRepeats, firsts_append, firsts_map, List.map_map,
    List.nil_append]
  rfl

theorem reports_firsts {earlier : List ExplicitMapping} {seen : List String}
    (known : ∀ e ∈ earlier, e.native ∈ seen) (es : List ExplicitMapping) :
    reports earlier (firsts ExplicitMapping.native seen es) = [] := by
  induction es generalizing earlier seen with
  | nil => rfl
  | cons e es ih =>
    rw [firsts]
    split
    · exact ih fun e' member => List.mem_append_left _ (known e' member)
    · rename_i new
      have absent : firstPath? earlier e.native = none := by
        rw [firstPath?_eq_none_iff]
        intro member
        obtain ⟨e', member, same⟩ := List.mem_map.1 member
        exact new (same ▸ known e' member)
      rw [reports, report?, absent, ih]
      · rfl
      · intro e' member
        rcases List.mem_append.1 member with member | member
        · exact List.mem_append_left _ (known e' member)
        · rw [List.mem_singleton.1 member]
          exact List.mem_append_right _ (List.mem_singleton.2 rfl)

namespace Population

/-! ## The mappings alone -/

structure Holds (paths : List String) (es : List ExplicitMapping) (r : Registry) : Prop where
  lookup : ∀ name, r.get? name = (firstPath? es name).map (.existing name)
  claims : r.claims = .empty
  materialized : r.materialized = paths
  notes : r.notes = []

def addExplicit (s : State) (e : ExplicitMapping) : State :=
  report s (s.1.addMapping e.native e.path) fun f =>
    { Diagnostic.ofFailure f with location := e.location }

theorem addOverride_eq (s : State) (o : Override) : addOverride s o = addExplicit s o.explicit := by
  -- A rejected mapping is reported nowhere in particular, so the place can be set as well.
  rcases Registry.addMapping_cases s.1 o.native o.target with ⟨-, added⟩ | ⟨q, -, accepted⟩ |
    ⟨name, p, -, moved⟩ | ⟨old, -, -, moved⟩
  · simp only [addOverride, addExplicit, Override.explicit, report, added]
    rfl
  · simp only [addOverride, addExplicit, Override.explicit, report, accepted]
    rfl
  · simp only [addOverride, addExplicit, Override.explicit, report, moved]
    rfl
  · simp only [addOverride, addExplicit, Override.explicit, report, moved]
    rfl

variable {paths : List String} {es : List ExplicitMapping}

theorem Holds.addExplicit {s : State} (h : Holds paths es s.1) (e : ExplicitMapping) :
    Holds paths (es ++ [e]) (addExplicit s e).1 ∧
      (Population.addExplicit s e).2 = s.2 ++ (report? es e).toList := by
  cases first : firstPath? es e.native with
  | none =>
    have fresh : s.1.get? e.native = none := by rw [h.lookup, first, Option.map_none]
    have added := Registry.addMapping_of_none e.path fresh
    simp only [Population.addExplicit, report, added, report?, first]
    refine ⟨⟨fun name => ?_, h.claims, h.materialized, h.notes⟩, rfl⟩
    rw [Registry.renames_put, firstPath?_concat]
    split
    · rename_i same
      rw [same, first, if_pos rfl]
      rfl
    · rename_i other
      rw [if_neg (Ne.symm other), Option.or_none, h.lookup]
  | some path =>
    have here : s.1.get? e.native = some (.existing e.native path) := by
      rw [h.lookup, first, Option.map_some]
    simp only [Population.addExplicit, report, Registry.addMapping, here, report?, first]
    refine ⟨⟨fun name => ?_, h.claims, h.materialized, h.notes⟩, rfl⟩
    rw [Registry.renames_moveLast, firstPath?_concat]
    split
    · rename_i same
      rw [same, first]
      rfl
    · rename_i other
      rw [if_neg (Ne.symm other), Option.or_none, h.lookup]

theorem holds_foldl {s : State} (h : Holds paths es s.1) (more : List ExplicitMapping) :
    Holds paths (es ++ more) (more.foldl addExplicit s).1 ∧
      (more.foldl addExplicit s).2 = s.2 ++ reports es more := by
  induction more generalizing s es with
  | nil => simpa [reports] using h
  | cons e more ih =>
    obtain ⟨next, reported⟩ := h.addExplicit e
    have rest := ih next
    rw [reported, List.append_assoc, List.append_assoc] at rest
    exact rest

def explicitState (p : Plan) : State :=
  p.explicit.foldl addExplicit (.withMaterialized p.materialized, [])

theorem holds_explicit (p : Plan) :
    Holds p.materialized p.explicit (explicitState p).1 ∧
      (explicitState p).2 = reports [] p.explicit := by
  have empty : Holds p.materialized [] (.withMaterialized p.materialized) :=
    ⟨fun _ => rfl, rfl, rfl, rfl⟩
  exact holds_foldl (s := (.withMaterialized p.materialized, [])) empty p.explicit

theorem Holds.alike {es' : List ExplicitMapping} {r s : Registry} (h : Holds paths es r)
    (h' : Holds paths es' s) (same : ∀ name, firstPath? es name = firstPath? es' name) :
    Registry.Alike r s where
  lookup name := by rw [h.lookup, h'.lookup, same]
  claims := h.claims.trans h'.claims.symm
  materialized := h.materialized.trans h'.materialized.symm
  notes := h.notes.trans h'.notes.symm

theorem alike_withoutRepeats (p : Plan) :
    Registry.Alike (explicitState p).1 (explicitState p.withoutRepeats).1 := by
  refine (holds_explicit p).1.alike (holds_explicit p.withoutRepeats).1 fun name => ?_
  rw [Plan.explicit_withoutRepeats, firstPath?, firstPath?,
    find?_firsts ExplicitMapping.native (List.not_mem_nil (a := name))]

/-! ## What is registered after the mappings -/

def addOthers (b : Bindings) (p : Plan) (s : State) : State :=
  let s := (functionPointers b p.directives).foldl addFunctionPointer s
  let s := p.headerDestination.toList.foldl (addHeader b) s
  (structureRequests b p.directives).foldl addStructure s

def close (s : State) : Registry × List Diagnostic := (s.1.takeNotes.2, s.2 ++ s.1.takeNotes.1)

theorem populate_eq (b : Bindings) (p : Plan) :
    populate b p = close (addOthers b p (explicitState p)) := by
  have overrides (s : State) :
      p.overrides.foldl addOverride s =
        (p.overrides.map Override.explicit).foldl addExplicit s := by
    rw [List.foldl_map, funext₂ addOverride_eq]
  have scanned (s : State) :
      p.scanned.foldl addScanned s =
        (p.scanned.map ScannedMapping.explicit).foldl addExplicit s := by
    rw [List.foldl_map]
    rfl
  rw [explicitState, Plan.explicit, List.foldl_append, ← overrides, ← scanned]
  rfl

def Trails (ds : List Diagnostic) (x y : State) : Prop :=
  Registry.Alike x.1 y.1 ∧ x.2 = ds ++ y.2

variable {ds : List Diagnostic} {x y : State}

theorem Trails.report (h : Trails ds x y) {outcome outcome' : Registry × Option Failure}
    (same : Registry.Alongside outcome outcome') (explain : Failure → Diagnostic) :
    Trails ds (report x outcome explain) (report y outcome' explain) := by
  refine ⟨same.1, ?_⟩
  simp only [Population.report, h.2, same.2, List.append_assoc]

theorem Trails.addHeader (h : Trails ds x y) (b : Bindings) (destination : String) :
    Trails ds (addHeader b x destination) (Population.addHeader b y destination) := by
  obtain ⟨alike, same⟩ := h.1.addHeader b destination
  refine ⟨alike, ?_⟩
  simp only [Population.addHeader, h.2, same, List.append_assoc]

theorem Trails.addOthers (h : Trails ds x y) (b : Bindings) (p : Plan) :
    Trails ds (addOthers b p x) (Population.addOthers b p y) := by
  have pointers := List.foldl_rel h (l := functionPointers b p.directives)
    (f := addFunctionPointer) (g := addFunctionPointer)
    fun pointer _ _ _ trails =>
      trails.report (trails.1.addFunctionPointer pointer.name pointer.path) _
  have header := List.foldl_rel pointers (l := p.headerDestination.toList)
    (f := Population.addHeader b) (g := Population.addHeader b)
    fun destination _ _ _ trails => trails.addHeader b destination
  exact List.foldl_rel header fun q _ _ _ trails => trails.report (trails.1.addRequest q) _

theorem Trails.close (h : Trails ds x y) : (close x).2 = ds ++ (Population.close y).2 := by
  simp only [Population.close, Registry.takeNotes, h.2, h.1.notes, List.append_assoc]

/-! ## A population as a run of registrations -/

def otherRegistrations (b : Bindings) (p : Plan) : List Registration :=
  (functionPointers b p.directives).map (fun f => .functionPointer f.name f.path) ++
    (p.headerDestination.toList.map (.header b) ++ (structureRequests b p.directives).map .request)

theorem fst_foldl {β : Type} {step : State → β → State} (call : β → Registration)
    (registers : ∀ s b, (step s b).1 = (s.1.register (call b)).1) (bs : List β) (s : State) :
    (bs.foldl step s).1 = s.1.run (bs.map call) := by
  induction bs generalizing s with
  | nil => rfl
  | cons b bs ih =>
    refine (ih (step s b)).trans ?_
    rw [registers]
    rfl

theorem fst_explicitState (p : Plan) :
    (explicitState p).1 = (Registry.withMaterialized p.materialized).run
      (p.explicit.map fun e => .mapping e.native e.path) := by
  rw [explicitState, fst_foldl (fun e => .mapping e.native e.path) fun _ _ => rfl]

theorem fst_addOthers (b : Bindings) (p : Plan) (s : State) :
    (addOthers b p s).1 = s.1.run (otherRegistrations b p) := by
  unfold addOthers otherRegistrations
  simp only [Registry.run, List.foldl_append]
  rw [fst_foldl .request fun _ _ => rfl, fst_foldl (.header b) fun _ _ => rfl,
    fst_foldl (fun f => .functionPointer f.name f.path) fun _ _ => rfl]
  rfl

theorem mapped_otherRegistrations (b : Bindings) (p : Plan) :
    Registry.mapped (otherRegistrations b p) ⊆ ∅ := by
  rintro native ⟨path, member⟩
  simp [otherRegistrations] at member

/-- However the bindings are, the first mapping that a plan asks for of a name holds in the registry
of the plan, and no request is left for the name. Each later one of the name is reported, once and
where it stands; all else is reported as if it were not there. -/
theorem explicit_mappings_win (b : Bindings) (p : Plan) :
    (∀ e ∈ p.explicit, ∃ path, firstPath? p.explicit e.native = some path ∧
      (populate b p).1.existingPath? e.native = some path ∧
      ∀ q ∈ (populate b p).1.requests, q.native ≠ e.native) ∧
    (populate b p).2 = reports [] p.explicit ++ (populate b p.withoutRepeats).2 := by
  constructor
  · intro e member
    obtain ⟨path, first⟩ : ∃ path, firstPath? p.explicit e.native = some path := by
      rw [← Option.ne_none_iff_exists', Ne, firstPath?_eq_none_iff, not_not]
      exact List.mem_map_of_mem member
    let r := (explicitState p).1
    let s := r.run (otherRegistrations b p)
    have consistent : Registry.Consistent s := by
      change Registry.Consistent ((explicitState p).1.run _)
      rw [fst_explicitState]
      exact ((Registry.consistent_withMaterialized p.materialized).run _).run _
    -- What follows the mappings keeps the path that a name leads to.
    have found : s.existingPath? e.native = some path := by
      refine (Registry.run_keeps r _ (mapped_otherRegistrations b p)).path e.native path ?_
      rw [Registry.existingPath?, (holds_explicit p).1.lookup, first]
      rfl
    have registry : (populate b p).1 = s.takeNotes.2 := by
      rw [populate_eq, close, fst_addOthers]
    refine ⟨path, first, ?_, fun q pending same => ?_⟩
    · rw [registry]
      exact found
    · rw [registry] at pending
      have there : s.get? q.native = some (.pending q) := consistent.mem_requests_iff.1 pending
      rw [Registry.existingPath?, ← same, there] at found
      cases found
  · have trails : Trails (reports [] p.explicit) (explicitState p)
        (explicitState p.withoutRepeats) := by
      refine ⟨alike_withoutRepeats p, ?_⟩
      -- Without repeats no mapping is rejected, so these reports are all the others.
      have silent : (explicitState p.withoutRepeats).2 = [] := by
        rw [(holds_explicit p.withoutRepeats).2, Plan.explicit_withoutRepeats]
        exact reports_firsts (fun _ member => absurd member List.not_mem_nil) p.explicit
      rw [(holds_explicit p).2, silent, List.append_nil]
    rw [populate_eq, populate_eq]
    exact (trails.addOthers b p).close

end Population
end Bindwright
