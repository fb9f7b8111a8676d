import Bindwright.Proofs.Registry.Grouping
import Mathlib.Logic.Relation

namespace Bindwright.Registry

structure Frame (r s : Registry) : Prop where
  materialized : s.materialized = r.materialized
  distinct : r.mappings.keys.Nodup → s.mappings.keys.Nodup

def Renames (r s : Registry) (native : String) (m : Mapping) : Prop :=
  ∀ name, s.get? name = if name = native then some m else r.get? name

inductive Growth (r s : Registry) : Prop where
  -- Notes and the order of the names may change.
  | same (frame : Frame r s) (lookup : ∀ name, s.get? name = r.get? name)
      (claims : s.claims = r.claims)
  -- A name that stands for no request stands for `m`, with the type that it stood for, if any.
  | named (frame : Frame r s) (native : String) (m : Mapping) (lookup : Renames r s native m)
      (own : m.native = native) (settled : m.request? = none)
      (before : ∀ old, r.get? native = some old →
        old.request? = none ∧ ∀ p, old.existingPath? = some p → m.existingPath? = some p)
      (claims : s.claims = r.claims)
  -- A request for a new name claims its destination.
  | queued (frame : Frame r s) (q : Request) (lookup : Renames r s q.native (.pending q))
      (fresh : r.get? q.native = none) (absent : q.destination.path ∉ r.materialized)
      (free : r.claims.find? q.destination.path = none)
      (claims : s.claims = r.claims.insert q.destination.path q.native)

structure Override (r s : Registry) (native : String) (q : Request) (m : Mapping) : Prop where
  frame : Frame r s
  pending : r.get? native = some (.pending q)
  lookup : Renames r s native m
  own : m.native = native
  settled : m.request? = none
  claims : s.claims = r.claims.erase q.destination.path

variable {r s : Registry}

theorem Frame.refl (r : Registry) : Frame r r := ⟨rfl, id⟩

theorem Growth.refl (r : Registry) : Growth r r := .same (.refl r) (fun _ => rfl) rfl

theorem frame_put (r : Registry) (native : String) (m : Mapping) : Frame r (r.put native m) :=
  ⟨rfl, fun distinct => Table.nodup_keys_insert distinct native m⟩

theorem renames_put (r : Registry) (native : String) (m : Mapping) :
    Renames r (r.put native m) native m :=
  fun name => Table.find?_insert r.mappings native m name

theorem frame_moveLast (r : Registry) (native : String) (m : Mapping) :
    Frame r (r.moveLast native m) :=
  ⟨rfl, fun distinct => Table.nodup_keys_insert (Table.nodup_keys_erase distinct native) native m⟩

theorem renames_moveLast (r : Registry) (native : String) (m : Mapping) :
    Renames r (r.moveLast native m) native m := by
  intro name
  refine (Table.find?_insert _ native m name).trans ?_
  by_cases same : name = native
  · rw [if_pos same, if_pos same]
  · rw [if_neg same, if_neg same, Table.find?_erase, if_neg same]
    rfl

theorem growth_moveLast {native : String} {m : Mapping} (here : r.get? native = some m) :
    Growth r (r.moveLast native m) := by
  refine .same (frame_moveLast r native m) (fun name => ?_) rfl
  rw [renames_moveLast]
  split
  · rename_i same
    rw [same, here]
  · rfl

theorem growth_note (r : Registry) (message : String) : Growth r (r.note message) :=
  .same ⟨rfl, id⟩ (fun _ => rfl) rfl

theorem addMapping_of_none {native : String} (path : String) (fresh : r.get? native = none) :
    r.addMapping native path = (r.put native (.existing native path), none) := by
  unfold addMapping
  rw [fresh]

theorem growth_put {native : String} {m : Mapping} (own : m.native = native)
    (settled : m.request? = none) (fresh : r.get? native = none) : Growth r (r.put native m) :=
  .named (frame_put r native m) native m (renames_put r native m) own settled
    (fun old here => absurd (here.symm.trans fresh) (Option.some_ne_none old)) rfl

theorem override_release {native : String} {q : Request} {m : Mapping} (message : String)
    (pending : r.get? native = some (.pending q)) (own : m.native = native)
    (settled : m.request? = none) :
    Override r (((r.release q.destination).note message).moveLast native m) native q m where
  frame := ⟨rfl, (frame_moveLast ((r.release q.destination).note message) native m).distinct⟩
  pending := pending
  lookup := renames_moveLast ((r.release q.destination).note message) native m
  own := own
  settled := settled
  claims := rfl

theorem addMapping_of_pending {native : String} {q : Request} (path : String)
    (pending : r.get? native = some (.pending q)) :
    (∃ m, Override r (r.addMapping native path).1 native q m) ∧
      (r.addMapping native path).2 = none := by
  cases product : q.product with
  | wrapper =>
    simp only [addMapping, pending, product, and_true]
    exact ⟨_, override_release _ pending rfl rfl⟩
  | constants group members valueType =>
    simp only [addMapping, pending, product, and_true]
    exact ⟨_, override_release _ pending rfl rfl⟩

theorem addMapping_cases (r : Registry) (native path : String) :
    (r.get? native = none ∧
        r.addMapping native path = (r.put native (.existing native path), none)) ∨
      (∃ q, (∃ m, Override r (r.addMapping native path).1 native q m) ∧
        (r.addMapping native path).2 = none) ∨
      (∃ name p, r.get? native = some (.functionPointer name p) ∧
        r.addMapping native path =
          (r.moveLast native (.replacement native path (.functionPointer name p)), none)) ∨
      (∃ old, r.get? native = some old ∧ old.request? = none ∧
        r.addMapping native path = (r.moveLast native old, some (alreadyMapped native old))) := by
  cases here : r.get? native with
  | none => exact .inl ⟨rfl, addMapping_of_none path here⟩
  | some old =>
    apply Or.inr
    cases old with
    | pending q => exact .inl ⟨q, addMapping_of_pending path here⟩
    | functionPointer name p =>
      refine .inr (.inl ⟨name, p, rfl, ?_⟩)
      simp only [addMapping, here]
    | _ =>
      refine .inr (.inr ⟨_, rfl, rfl, ?_⟩)
      simp only [addMapping, here]

theorem addMapping_change (r : Registry) (native path : String) :
    Growth r (r.addMapping native path).1 ∨
      ∃ q m, Override r (r.addMapping native path).1 native q m := by
  rcases addMapping_cases r native path with ⟨fresh, added⟩ | ⟨q, ⟨m, override⟩, -⟩ |
    ⟨name, p, here, moved⟩ | ⟨old, here, -, moved⟩
  · rw [added]
    exact .inl (growth_put rfl rfl fresh)
  · exact .inr ⟨q, m, override⟩
  · rw [moved]
    refine .inl (.named (frame_moveLast r native _) native _ (renames_moveLast r native _) rfl rfl
      (fun old found => ?_) rfl)
    cases here.symm.trans found
    exact ⟨rfl, fun _ none => nomatch none⟩
  · rw [moved]
    exact .inl (growth_moveLast here)

theorem addFunctionPointer_growth (r : Registry) (native path : String) :
    Growth r (r.addFunctionPointer native path).1 := by
  cases here : r.get? native with
  | none =>
    simp only [addFunctionPointer, here]
    exact growth_put rfl rfl here
  | some old =>
    cases old with
    | existing name p =>
      simp only [addFunctionPointer, here]
      refine .named (frame_put r native _) native _ (renames_put r native _) rfl rfl
        (fun old found => ?_) rfl
      cases here.symm.trans found
      exact ⟨rfl, fun _ kept => kept⟩
    | _ =>
      simp only [addFunctionPointer, here]
      exact .refl r

theorem addFlagBits_growth (r : Registry) (native flags : String) :
    Growth r (r.addFlagBits native flags).1 := by
  cases here : r.get? native with
  | none =>
    simp only [addFlagBits, here]
    exact growth_put rfl rfl here
  | some old =>
    simp only [addFlagBits, here]
    split <;> exact .refl r

def queue (r : Registry) (q : Request) : Registry :=
  { r with
    claims := r.claims.insert q.destination.path q.native
    mappings := r.mappings.insert q.native (.pending q) }

def skipText (q : Request) (path : String) : String :=
  q.native ++ " is already mapped to \x60" ++ path ++ "\x60; skipping its " ++
    q.product.describe ++ " request"

def redirectText (q : Request) : String :=
  q.destination.path ++ " already exists; mapping " ++ q.native ++ " to it instead of generating"

section Requests

variable {q : Request}

theorem addRequest_of_some {old : Mapping} (here : r.get? q.native = some old)
    (unknown : old.existingPath? = none) :
    r.addRequest q = (r, some (alreadyMapped q.native old)) := by
  simp only [addRequest, here, unknown]

theorem addRequest_of_materialized (fresh : r.get? q.native = none)
    (present : q.destination.path ∈ r.materialized) :
    r.addRequest q =
      ((r.note (redirectText q)).put q.native (.existing q.native q.destination.path), none) := by
  simp only [addRequest, fresh]
  rw [if_pos (List.contains_iff_mem.2 present)]
  exact addMapping_of_none _ (show (r.note _).get? q.native = none from fresh)

theorem addRequest_of_none (fresh : r.get? q.native = none)
    (absent : q.destination.path ∉ r.materialized)
    (free : r.claims.find? q.destination.path = none) : r.addRequest q = (r.queue q, none) := by
  simp only [addRequest, fresh]
  rw [if_neg (mt List.contains_iff_mem.1 absent), free]
  rfl

end Requests

theorem addRequest_cases (r : Registry) (q : Request) :
    (∃ old path, r.get? q.native = some old ∧ old.existingPath? = some path ∧
        r.addRequest q = (r.note (skipText q path), none)) ∨
      (∃ old, r.get? q.native = some old ∧ old.existingPath? = none ∧
        r.addRequest q = (r, some (alreadyMapped q.native old))) ∨
      (r.get? q.native = none ∧ r.addRequest q =
        ((r.note (redirectText q)).put q.native (.existing q.native q.destination.path), none)) ∨
      (∃ claimer, r.get? q.native = none ∧ r.claims.find? q.destination.path = some claimer ∧
        r.addRequest q = (r, some (.duplicateMapping q.native
          ("destination \x60" ++ q.destination.path ++ "\x60 is already generated from " ++
            claimer)))) ∨
      (r.get? q.native = none ∧ q.destination.path ∉ r.materialized ∧
        r.claims.find? q.destination.path = none ∧ r.addRequest q = (r.queue q, none)) := by
  cases here : r.get? q.native with
  | some old =>
    cases known : old.existingPath? with
    | some path => exact .inl ⟨old, path, rfl, known, by simp only [addRequest, here, known]; rfl⟩
    | none => exact .inr (.inl ⟨old, rfl, known, addRequest_of_some here known⟩)
  | none =>
    refine .inr (.inr ?_)
    by_cases present : q.destination.path ∈ r.materialized
    · exact .inl ⟨rfl, addRequest_of_materialized here present⟩
    · refine .inr ?_
      cases claimed : r.claims.find? q.destination.path with
      | some claimer =>
        refine .inl ⟨claimer, rfl, rfl, ?_⟩
        simp only [addRequest, here]
        rw [if_neg (mt List.contains_iff_mem.1 present), claimed]
      | none => exact .inr ⟨rfl, present, rfl, addRequest_of_none here present claimed⟩

theorem renames_queue (r : Registry) (q : Request) :
    Renames r (r.queue q) q.native (.pending q) :=
  fun name => Table.find?_insert r.mappings q.native (.pending q) name

theorem addRequest_growth (r : Registry) (q : Request) : Growth r (r.addRequest q).1 := by
  rcases addRequest_cases r q with ⟨_, path, -, -, skipped⟩ | ⟨_, -, -, rejected⟩ |
    ⟨fresh, redirected⟩ | ⟨_, -, -, rejected⟩ | ⟨fresh, absent, free, queued⟩
  · rw [skipped]
    exact growth_note r _
  · rw [rejected]
    exact .refl r
  · rw [redirected]
    refine .named ⟨rfl, (frame_put (r.note _) q.native _).distinct⟩ q.native _
      (renames_put (r.note _) q.native _) rfl rfl (fun old found => ?_) rfl
    cases fresh.symm.trans found
  · rw [rejected]
    exact .refl r
  · rw [queued]
    exact .queued ⟨rfl, fun distinct => Table.nodup_keys_insert distinct _ _⟩ q
      (renames_queue r q) fresh absent free rfl

abbrev Grows : Registry → Registry → Prop := Relation.ReflTransGen Growth

theorem foldl_addDiagnostic (r : Registry) (ds : List Diagnostic) :
    ds.foldl addDiagnostic r = { r with notes := r.notes ++ ds } := by
  induction ds generalizing r with
  | nil => rw [List.append_nil]; rfl
  | cons d ds ih =>
    rw [List.foldl_cons, ih, addDiagnostic, List.append_assoc, List.singleton_append]

theorem growth_addDiagnostics (r : Registry) (ds : List Diagnostic) :
    Growth r (ds.foldl addDiagnostic r) := by
  rw [foldl_addDiagnostic]
  exact .same ⟨rfl, id⟩ (fun _ => rfl) rfl

theorem addGroup_grows (r : Registry) (sourceModule module : String)
    (group : Naming.ConstantGroup) (native : String) (constants : List HeaderConstant) :
    Grows r (r.addGroup sourceModule module group native constants).1 := by
  unfold addGroup
  split
  · exact .refl
  · exact .head (growth_addDiagnostics r _) (.single (addRequest_growth _ _))

theorem addFlagGroup_grows (sourceModule module : String) (r : Registry) (native : String)
    (g : OwnedConstants) : Grows r (addFlagGroup sourceModule module r native g).1 := by
  have grows := addGroup_grows r sourceModule module .flags native g.constants
  unfold addFlagGroup
  split
  · rename_i accepted
    rw [accepted] at grows
    exact grows.tail (addFlagBits_growth _ _ _)
  · exact grows

theorem registerGroup_grows (sourceModule module : String) (r : Registry) (g : HeaderGroup) :
    Grows r (registerGroup sourceModule module r g).1 := by
  unfold registerGroup
  split
  · exact addFlagGroup_grows sourceModule module r g.native _
  · exact addGroup_grows r sourceModule module .values g.native g.constants

theorem registerGroups_grows (sourceModule module : String) (r : Registry)
    (gs : List HeaderGroup) : Grows r (registerGroups sourceModule module r gs).1 := by
  induction gs generalizing r with
  | nil => exact .refl
  | cons g gs ih => exact (registerGroup_grows sourceModule module r g).trans (ih _)

theorem addHeader_grows (r : Registry) (b : Bindings) (module : String) :
    Grows r (r.addHeader b module).1 := by
  rw [addHeader_eq]
  exact registerGroups_grows b.headerModule module r _

end Bindwright.Registry
