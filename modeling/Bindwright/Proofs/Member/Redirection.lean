import Bindwright.Member.Classified
import Bindwright.Proofs.Registry.Run

/-!
# Members of a redirected type

A request whose destination exists becomes a mapping to it, and the mapping does not say what was
asked for. So a member of a wrapped structure is read alike whether the wrapper exists or is to be
generated, but a type of flags or of values that exists is taken for a structure
(`redirected_alike_iff`, `redirected_flags_read_as_structure`).
-/

namespace Bindwright

open Registry (Renames)

/-- An array of the member's type is read by what the type stands for. -/
def Member.ArrayReadByType (m : Member) (r : Registry) : Prop :=
  m.typeName ∉ ["char", "float", "double"] ∧
    (r.get? (m.typeName ++ " " ++ m.name)).bind Mapping.existingPath? = none

/-- What the type of the member stands for decides how the member is read. -/
def Member.ReadByType (m : Member) (r : Registry) : Prop :=
  m.declarator = .value ∨ m.declarator = .array .value ∧ m.ArrayReadByType r

namespace NativeType

theorem qualified_ne (type member : String) : type ++ " " ++ member ≠ type := by
  intro same
  have lengths := congrArg String.length same
  simp only [String.length_append] at lengths
  have space : " ".length = 1 := rfl
  omega

def layoutShape (t : NativeType) (m : Member) (b : Bindings) : Except Failure MemberShape :=
  match b.layout? m.typeName with
  | none => .error (.missingLayout t.name m.name m.typeName (t.documentationLocation m.position))
  | some layout =>
    .ok <| match layout.element with
      | .address => .handleArray layout.path
      | .value element => .primitiveArray element layout.path

theorem layoutShape_ne_mappedArray (t : NativeType) (m : Member) (b : Bindings) (path : String) :
    t.layoutShape m b ≠ .ok (.mappedArray path) := by
  unfold layoutShape
  split
  · nofun
  · split <;> nofun

theorem arrayShape_of_readByType (t : NativeType) (b : Bindings) {m : Member} {r : Registry}
    (unknown : m.ArrayReadByType r) :
    t.arrayShape m r b =
      match (r.get? m.typeName).bind Mapping.structurePath? with
      | some target => .ok (.mappedArray target)
      | none => t.layoutShape m b := by
  obtain ⟨primitive, unqualified⟩ := unknown
  obtain ⟨noText, noFloat, noDouble⟩ : m.typeName ≠ "char" ∧ m.typeName ≠ "float" ∧
      m.typeName ≠ "double" := by simpa using primitive
  unfold arrayShape
  rw [if_neg noText, if_neg noFloat, if_neg noDouble, unqualified]
  rfl

theorem arrayShape_congr (t : NativeType) (b : Bindings) {m : Member} {r s : Registry}
    (known : ¬m.ArrayReadByType r)
    (same : s.get? (m.typeName ++ " " ++ m.name) = r.get? (m.typeName ++ " " ++ m.name)) :
    t.arrayShape m s b = t.arrayShape m r b := by
  unfold arrayShape
  rw [same]
  by_cases primitive : m.typeName ∈ ["char", "float", "double"]
  · simp only [List.mem_cons, List.not_mem_nil, or_false] at primitive
    rcases primitive with type | type | type <;> simp [type]
  · cases qualified : (r.get? (m.typeName ++ " " ++ m.name)).bind Mapping.existingPath? with
    | some path => rfl
    | none => exact absurd ⟨primitive, qualified⟩ known

section Redirection

variable {r redirected queued : Registry} {q : Request}
  (mapped : Renames r redirected q.native (.existing q.native q.destination.path))
  (pending : Renames r queued q.native (.pending q)) (t : NativeType) (b : Bindings) {m : Member}
  (rawType : String)

include mapped pending

theorem value_alike_iff (own : m.typeName = q.native) (value : m.declarator = .value) :
    t.shapeOf m rawType redirected b = t.shapeOf m rawType queued b ↔ q.product = .wrapper := by
  simp only [shapeOf, value, own, mapped.get?_native, pending.get?_native, mappedShape]
  cases q.product with
  | wrapper => simp
  | constants group => cases group <;> simp

theorem array_alike_iff (own : m.typeName = q.native) :
    t.arrayShape m redirected b = t.arrayShape m queued b ↔
      q.product = .wrapper ∨ ¬m.ArrayReadByType r := by
  have other : m.typeName ++ " " ++ m.name ≠ q.native := own ▸ qualified_ne _ _
  have alongside := mapped.get?_other other
  have alongside' := pending.get?_other other
  by_cases unknown : m.ArrayReadByType r
  · have shape := arrayShape_of_readByType t b (m := m) (r := redirected)
      ⟨unknown.1, alongside ▸ unknown.2⟩
    have shape' := arrayShape_of_readByType t b (m := m) (r := queued)
      ⟨unknown.1, alongside' ▸ unknown.2⟩
    rw [own, mapped.get?_native] at shape
    rw [own, pending.get?_native] at shape'
    rw [shape, shape', or_iff_left (not_not_intro unknown)]
    obtain ⟨native, sourceModule, destination, product, location⟩ := q
    cases product with
    | wrapper => exact iff_of_true rfl rfl
    | constants => exact iff_of_false (layoutShape_ne_mappedArray t m b _).symm nofun
  · have shape := arrayShape_congr t b unknown alongside
    have shape' := arrayShape_congr t b unknown alongside'
    exact iff_of_true (shape.trans shape'.symm) (.inr unknown)

theorem shapeOf_alike_iff (own : m.typeName = q.native) :
    t.shapeOf m rawType redirected b = t.shapeOf m rawType queued b ↔
      q.product = .wrapper ∨ ¬m.ReadByType r := by
  -- A shape for which no type is looked up is the same in all registries.
  have untyped (same : ∀ s : Registry, t.shapeOf m rawType s b = t.shapeOf m rawType r b)
      (reads : ¬m.ReadByType r) : t.shapeOf m rawType redirected b = t.shapeOf m rawType queued b ↔
        q.product = .wrapper ∨ ¬m.ReadByType r :=
    iff_of_true ((same redirected).trans (same queued).symm) (.inr reads)
  cases declarator : m.declarator with
  | value =>
    rw [value_alike_iff mapped pending t b rawType own declarator,
      or_iff_left (not_not_intro (.inl declarator))]
  | pointer inner =>
    refine untyped (fun s => ?_) ?_
    · simp only [shapeOf, declarator]
    · simp [Member.ReadByType, declarator]
  | function inner =>
    refine untyped (fun s => ?_) ?_
    · simp only [shapeOf, declarator]
    · simp [Member.ReadByType, declarator]
  | array inner =>
    cases inner with
    | value =>
      have reads : m.ReadByType r ↔ m.ArrayReadByType r := by
        simp [Member.ReadByType, declarator]
      simp only [shapeOf, declarator, reads]
      exact array_alike_iff mapped pending t b own
    | _ =>
      refine untyped (fun s => ?_) ?_
      · simp only [shapeOf, declarator]
      · simp [Member.ReadByType, declarator]

end Redirection

/-- A request for a new name and a destination that nothing claims becomes a mapping if the
destination is `present`, and is queued if it is `absent`. In both cases a member of the type is
read alike if and only if the request is for a wrapper or the type does not decide how the member
is read. -/
theorem redirected_alike_iff (r : Registry) (q : Request) (present absent : List String)
    (fresh : r.get? q.native = none) (unclaimed : r.claims.find? q.destination.path = none)
    (here : q.destination.path ∈ present) (missing : q.destination.path ∉ absent) (t : NativeType)
    (b : Bindings) (m : Member) (rawType : String) (own : m.typeName = q.native) :
    let redirected := (Registry.addRequest { r with materialized := present } q).1
    let queued := (Registry.addRequest { r with materialized := absent } q).1
    redirected.get? q.native = some (.existing q.native q.destination.path) ∧
      queued.get? q.native = some (.pending q) ∧
      (t.shapeOf m rawType redirected b = t.shapeOf m rawType queued b ↔
        q.product = .wrapper ∨ ¬m.ReadByType r) := by
  have mapped := Registry.addRequest_of_materialized
    (r := { r with materialized := present }) fresh here
  have pending := Registry.addRequest_of_none (r := { r with materialized := absent }) fresh missing
    unclaimed
  rw [mapped, pending]
  have renames := Registry.renames_put
    (Registry.note { r with materialized := present } (Registry.redirectText q)) q.native
    (.existing q.native q.destination.path)
  have renames' := Registry.renames_queue { r with materialized := absent } q
  exact ⟨renames.get?_native, renames'.get?_native,
    shapeOf_alike_iff (r := r) renames renames' t b rawType own⟩

def familyProperties : NativeType :=
  { name := "VkQueueFamilyProperties", path := "bindings::VkQueueFamilyProperties"
    documentation := "", documentationLine := 1, accessors := [], hasLayout := true
    location := .unknown }

def noBindings : Bindings :=
  { types := [], functionPointers := [], constants := [], layouts := []
    headerModule := "bindings", separator := '$' }

theorem redirected_alike_iff_structure :
    let q : Request := ⟨"VkExtent3D", "bindings", ⟨"crate::vk", "Extent3d"⟩, .wrapper, .unknown⟩
    let m : Member := ⟨"minImageTransferGranularity", "VkExtent3D", .value, .start⟩
    let redirected := ((Registry.withMaterialized ["crate::vk::Extent3d"]).addRequest q).1
    let queued := ((Registry.withMaterialized []).addRequest q).1
    familyProperties.shapeOf m "Segment" redirected noBindings =
      familyProperties.shapeOf m "Segment" queued noBindings := by
  intro q m redirected queued
  obtain ⟨-, -, alike⟩ := redirected_alike_iff (Registry.withMaterialized []) q
    ["crate::vk::Extent3d"] [] rfl rfl (by decide) nofun familyProperties noBindings m "Segment" rfl
  exact alike.2 (.inl rfl)

/-- Flags that exist are read as a structure, through a kind of accessor that flags lack. -/
theorem redirected_flags_read_as_structure :
    let q : Request := ⟨"VkQueueFlags", "bindings", ⟨"crate::vk", "QueueFlag"⟩,
      .constants .flags [] "i32", .unknown⟩
    let m : Member := ⟨"queueFlags", "VkQueueFlags", .value, .start⟩
    let redirected := ((Registry.withMaterialized ["crate::vk::QueueFlag"]).addRequest q).1
    let queued := ((Registry.withMaterialized []).addRequest q).1
    familyProperties.shapeOf m "i32" redirected noBindings =
        .ok (.mappedValue "crate::vk::QueueFlag") ∧
      familyProperties.shapeOf m "i32" queued noBindings =
        .ok (.flagSet "crate::vk::QueueFlag") :=
  ⟨rfl, rfl⟩

end NativeType
end Bindwright
