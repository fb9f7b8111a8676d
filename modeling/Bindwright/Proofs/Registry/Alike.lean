import Bindwright.Proofs.Registry.Change

namespace Bindwright.Registry

structure Alike (r s : Registry) : Prop where
  lookup : ∀ name, r.get? name = s.get? name
  claims : r.claims = s.claims
  materialized : r.materialized = s.materialized
  notes : r.notes = s.notes

def Alongside {ε : Type} (x y : Registry × ε) : Prop := Alike x.1 y.1 ∧ x.2 = y.2

variable {r s : Registry}

theorem Alike.put (h : Alike r s) (native : String) (m : Mapping) :
    Alike (r.put native m) (s.put native m) where
  lookup name := by rw [renames_put, renames_put, h.lookup]
  claims := h.claims
  materialized := h.materialized
  notes := h.notes

theorem Alike.addDiagnostic (h : Alike r s) (d : Diagnostic) :
    Alike (r.addDiagnostic d) (s.addDiagnostic d) where
  lookup := h.lookup
  claims := h.claims
  materialized := h.materialized
  notes := congrArg (· ++ [d]) h.notes

theorem Alike.note (h : Alike r s) (message : String) : Alike (r.note message) (s.note message) :=
  h.addDiagnostic _

theorem Alike.addFunctionPointer (h : Alike r s) (native path : String) :
    Alongside (r.addFunctionPointer native path) (s.addFunctionPointer native path) := by
  unfold Registry.addFunctionPointer
  rw [h.lookup]
  split
  · exact ⟨h.put native _, rfl⟩
  · exact ⟨h.put native _, rfl⟩
  · exact ⟨h, rfl⟩

theorem Alike.addFlagBits (h : Alike r s) (native flags : String) :
    Alongside (r.addFlagBits native flags) (s.addFlagBits native flags) := by
  unfold Registry.addFlagBits
  rw [h.lookup]
  split
  · exact ⟨h.put native _, rfl⟩
  · split <;> exact ⟨h, rfl⟩

theorem Alike.addRequest (h : Alike r s) (q : Request) :
    Alongside (r.addRequest q) (s.addRequest q) := by
  unfold Registry.addRequest
  rw [h.lookup, h.materialized, h.claims]
  cases here : s.get? q.native with
  | some old =>
    cases kept : old.existingPath? with
    | some path =>
      simp only [kept]
      exact ⟨h.note _, rfl⟩
    | none =>
      simp only [kept]
      exact ⟨h, rfl⟩
  | none =>
    simp only
    split
    · -- The name is new to both, so both map it to the type that exists.
      rw [addMapping_of_none _ (show (r.note _).get? q.native = none from (h.lookup _).trans here),
        addMapping_of_none _ (show (s.note _).get? q.native = none from here)]
      exact ⟨(h.note _).put q.native _, rfl⟩
    · split
      · exact ⟨h, rfl⟩
      · exact ⟨⟨(h.put q.native (.pending q)).lookup, rfl, rfl, h.notes⟩, rfl⟩

theorem Alike.addGroup (h : Alike r s) (sourceModule module : String)
    (group : Naming.ConstantGroup) (native : String) (constants : List HeaderConstant) :
    Alongside (r.addGroup sourceModule module group native constants)
      (s.addGroup sourceModule module group native constants) := by
  unfold Registry.addGroup
  split
  · exact ⟨h, rfl⟩
  · exact (List.foldl_rel h fun d _ _ _ alike => alike.addDiagnostic d).addRequest _

theorem Alike.addFlagGroup (h : Alike r s) (sourceModule module native : String)
    (g : OwnedConstants) :
    Alongside (Registry.addFlagGroup sourceModule module r native g)
      (Registry.addFlagGroup sourceModule module s native g) := by
  obtain ⟨alike, same⟩ := h.addGroup sourceModule module .flags native g.constants
  unfold Registry.addFlagGroup
  generalize r.addGroup sourceModule module .flags native g.constants = x at alike same
  generalize s.addGroup sourceModule module .flags native g.constants = y at alike same
  obtain ⟨r', failure⟩ := x
  obtain ⟨s', failure'⟩ := y
  obtain rfl : failure = failure' := same
  cases failure with
  | none => exact alike.addFlagBits g.owner native
  | some _ => exact ⟨alike, rfl⟩

theorem Alike.registerGroup (h : Alike r s) (sourceModule module : String) (g : HeaderGroup) :
    Alongside (Registry.registerGroup sourceModule module r g)
      (Registry.registerGroup sourceModule module s g) := by
  unfold Registry.registerGroup
  split
  · exact h.addFlagGroup sourceModule module g.native _
  · exact h.addGroup sourceModule module .values g.native g.constants

theorem Alike.registerGroups (h : Alike r s) (sourceModule module : String)
    (gs : List HeaderGroup) :
    Alongside (Registry.registerGroups sourceModule module r gs)
      (Registry.registerGroups sourceModule module s gs) := by
  induction gs generalizing r s with
  | nil => exact ⟨h, rfl⟩
  | cons g gs ih =>
    obtain ⟨first, failure⟩ := h.registerGroup sourceModule module g
    obtain ⟨rest, failures⟩ := ih first
    rw [Registry.registerGroups, Registry.registerGroups, failure, failures]
    exact ⟨rest, rfl⟩

theorem Alike.addHeader (h : Alike r s) (b : Bindings) (module : String) :
    Alongside (r.addHeader b module) (s.addHeader b module) := by
  obtain ⟨alike, failures⟩ := h.registerGroups b.headerModule module (headerGroups b.constants)
  rw [addHeader_eq, addHeader_eq, failures]
  exact ⟨alike, rfl⟩

end Bindwright.Registry
