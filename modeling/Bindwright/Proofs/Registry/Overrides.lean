import Bindwright.Proofs.Registry.Rejection

namespace Bindwright.Registry

def LeadsTo (r : Registry) (first second : Registration) (s : Registry) : Prop :=
  ∃ between, r.register first = (between, []) ∧ between.register second = (s, [])

def NotesOne (r s : Registry) : Prop :=
  ∃ message, s.notes = r.notes ++ [⟨.note, message, .unknown, some "N0001"⟩]

/-- Every name stands for the same type in `r` and `s`, and the same is still to be generated. -/
structure SameTypes (r s : Registry) : Prop where
  existing : ∀ name, r.existingPath? name = s.existingPath? name
  structures : ∀ name, (r.get? name).bind Mapping.structurePath? =
    (s.get? name).bind Mapping.structurePath?
  requests : r.requests = s.requests
  claims : r.claims = s.claims

variable {r : Registry} {native path : String} {q : Request} {m m' : Mapping}

theorem structurePath?_of_existingPath? (stands : m.existingPath? = some path) :
    m.structurePath? = some path := by
  cases m with
  | existing | replacement => exact stands
  | _ => cases stands

theorem request?_of_existingPath? (stands : m.existingPath? = some path) :
    m.request? = none := by
  cases m with
  | existing | replacement => rfl
  | _ => cases stands

theorem bind_get?_put (r : Registry) (native : String) (m : Mapping) (name : String)
    (view : Mapping → Option String) :
    ((r.put native m).get? name).bind view =
      if name = native then view m else (r.get? name).bind view := by
  rw [renames_put]
  split <;> rfl

theorem requests_put (fresh : r.get? native = none) (settled : m.request? = none) :
    (r.put native m).requests = r.requests := by
  have absent : r.mappings.contains native = false := by
    rw [← Table.find?_isSome, show r.mappings.find? native = none from fresh]
    rfl
  simp [requests, put, Table.insert_of_not_contains absent, Table.values, settled]

theorem sameTypes_put (fresh : r.get? native = none) (stands : m.existingPath? = some path)
    (stands' : m'.existingPath? = some path) :
    SameTypes (r.put native m) (r.put native m') where
  existing name := by
    unfold existingPath?
    rw [bind_get?_put, bind_get?_put, stands, stands']
  structures name := by
    rw [bind_get?_put, bind_get?_put, structurePath?_of_existingPath? stands,
      structurePath?_of_existingPath? stands']
  requests := by
    rw [requests_put fresh (request?_of_existingPath? stands),
      requests_put fresh (request?_of_existingPath? stands')]
  claims := rfl

theorem SameTypes.note {s : Registry} (same : SameTypes r s) (message message' : String) :
    SameTypes (r.note message) (s.note message') :=
  ⟨same.existing, same.structures, same.requests, same.claims⟩

theorem notesOne_note (r : Registry) (native : String) (m : Mapping) (message : String) :
    NotesOne r ((r.put native m).note message) := ⟨message, rfl⟩

theorem moveLast_put (fresh : r.get? native = none) (m m' : Mapping) :
    (r.put native m).moveLast native m' = r.put native m' := by
  simp only [put, moveLast, Table.erase_insert_of_fresh fresh]

theorem put_put (fresh : r.get? native = none) (m m' : Mapping) :
    (r.put native m).put native m' = r.put native m' := by
  simp only [put, Table.insert_insert_of_fresh fresh]

theorem mapping_then_request (path : String) (fresh : r.get? q.native = none) :
    r.LeadsTo (.mapping q.native path) (.request q)
      ((r.put q.native (.existing q.native path)).note (skipText q path)) := by
  refine ⟨r.put q.native (.existing q.native path), ?_, ?_⟩
  · simp only [register, addMapping_of_none path fresh]
    rfl
  · have here : (r.put q.native (.existing q.native path)).get? q.native =
        some (.existing q.native path) := by rw [renames_put, if_pos rfl]
    simp only [register, addRequest, here]
    rfl

theorem addMapping_over_request (path : String) (pending : r.get? native = some (.pending q)) :
    ∃ m message, m.existingPath? = some path ∧ r.addMapping native path =
      (((r.release q.destination).note message).moveLast native m, none) := by
  cases product : q.product with
  | wrapper =>
    simp only [addMapping, pending, product]
    exact ⟨.replacement native path (.pending q), _, rfl, rfl⟩
  | constants group members valueType =>
    simp only [addMapping, pending, product]
    exact ⟨.existing native path, _, rfl, rfl⟩

theorem request_then_mapping (path : String) (fresh : r.get? q.native = none)
    (absent : q.destination.path ∉ r.materialized)
    (free : r.claims.find? q.destination.path = none) :
    ∃ m message, m.existingPath? = some path ∧
      r.LeadsTo (.request q) (.mapping q.native path) ((r.put q.native m).note message) := by
  have queued : r.register (.request q) = (r.queue q, []) := by
    simp only [register, addRequest_of_none fresh absent free]
    rfl
  have pending : (r.queue q).get? q.native = some (.pending q) := by rw [renames_queue, if_pos rfl]
  obtain ⟨m, message, stands, mapped⟩ := addMapping_over_request path pending
  -- The claim is released again, and the entry of the name was the last one.
  have restored : (((r.queue q).release q.destination).note message).moveLast q.native m =
      (r.put q.native m).note message := by
    simp only [queue, release, Table.erase_insert_of_fresh free]
    exact congrArg (Registry.note · message) (moveLast_put fresh (.pending q) m)
  refine ⟨m, message, stands, r.queue q, queued, ?_⟩
  simp only [register, mapped, restored]
  rfl

theorem mapping_then_functionPointer (path target : String) (fresh : r.get? native = none) :
    r.LeadsTo (.mapping native path) (.functionPointer native target)
      (r.put native (.replacement native path (.functionPointer native target))) := by
  refine ⟨r.put native (.existing native path), ?_, ?_⟩
  · simp only [register, addMapping_of_none path fresh]
    rfl
  · have here : (r.put native (.existing native path)).get? native =
        some (.existing native path) := by rw [renames_put, if_pos rfl]
    simp only [register, addFunctionPointer, here, put_put fresh]
    rfl

theorem functionPointer_then_mapping (path target : String) (fresh : r.get? native = none) :
    r.LeadsTo (.functionPointer native target) (.mapping native path)
      (r.put native (.replacement native path (.functionPointer native target))) := by
  refine ⟨r.put native (.functionPointer native target), ?_, ?_⟩
  · simp only [register, addFunctionPointer, fresh]
    rfl
  · have here : (r.put native (.functionPointer native target)).get? native =
        some (.functionPointer native target) := by rw [renames_put, if_pos rfl]
    simp only [register, addMapping, here, moveLast_put fresh]
    rfl

/-- A mapping of a new name to an existing type may come before or after a request for the name, or
before or after its function pointer. Every name stands for the same type after both, and the same
requests are pending with the same claims; with a function pointer, the registries are equal. -/
theorem override_order (r : Registry) (native path : String) (fresh : r.get? native = none) :
    (∀ q, q.native = native → q.destination.path ∉ r.materialized →
      r.claims.find? q.destination.path = none →
      ∃ early late, r.LeadsTo (.mapping native path) (.request q) early ∧
        r.LeadsTo (.request q) (.mapping native path) late ∧
        NotesOne r early ∧ NotesOne r late ∧ SameTypes early late) ∧
    ∀ target, ∃ s, r.LeadsTo (.mapping native path) (.functionPointer native target) s ∧
      r.LeadsTo (.functionPointer native target) (.mapping native path) s ∧ s.notes = r.notes := by
  refine ⟨?_, fun target => ?_⟩
  · rintro q rfl absent free
    obtain ⟨m, message, stands, late⟩ := request_then_mapping path fresh absent free
    exact ⟨_, _, mapping_then_request path fresh, late, notesOne_note r _ _ _,
      notesOne_note r _ _ _, (sameTypes_put fresh rfl stands).note _ _⟩
  · exact ⟨_, mapping_then_functionPointer path target fresh,
      functionPointer_then_mapping path target fresh, rfl⟩

theorem override_order_flags :
    let r := (withMaterialized ["crate::vk::Extent3d"]).run twoMapped
    let q : Request := ⟨"VkQueueFlags", "bindings", ⟨"crate::vk", "QueueFlag"⟩,
      .constants .flags [] "i32", .unknown⟩
    r.get? "VkQueueFlags" = none ∧ q.destination.path ∉ r.materialized ∧
      r.claims.find? q.destination.path = none ∧
      ∃ early late, r.LeadsTo (.mapping "VkQueueFlags" "crate::queue::Flags") (.request q) early ∧
        r.LeadsTo (.request q) (.mapping "VkQueueFlags" "crate::queue::Flags") late ∧
        NotesOne r early ∧ NotesOne r late ∧ SameTypes early late := by
  intro r q
  have fresh : r.get? "VkQueueFlags" = none := by decide
  have absent : q.destination.path ∉ r.materialized := by decide
  have free : r.claims.find? q.destination.path = none := by decide
  exact ⟨fresh, absent, free,
    (override_order r "VkQueueFlags" "crate::queue::Flags" fresh).1 q rfl absent free⟩

end Bindwright.Registry
