import Bindwright.Proofs.Member.Accessors
import Bindwright.Proofs.Source.Declarations
import Bindwright.Proofs.Source.Meaning

namespace Bindwright.Source

namespace Scope

/-- The modules that are read for accessors: a module itself and those nested in it, but not the
header's. -/
inductive Reaches (header : String) : Scope → Scope → Prop where
  | here (s : Scope) : Reaches header s s
  | nested {s inner : Scope} {name : String} {items : List Item} : .nested name items ∈ s.items →
      name ≠ header → Reaches header ⟨s.names, ItemPath.join s.module name, items⟩ inner →
      Reaches header s inner

def Implements (s : Scope) (path : String) (signature : Signature) : Prop :=
  ∃ target members name, .implementation target members ∈ s.items ∧ target.name? = some name ∧
    path = ItemPath.join s.module name ∧ .function true signature ∈ members

def place (s : Scope) (file : Option String) (header : String) : Place :=
  ⟨file, header, s.module, s.names⟩

def Adds (s : Scope) (file : Option String) (header : String) (addition : Addition) : Prop :=
  ∃ inner target members name, s.Reaches header inner ∧
    .implementation target members ∈ inner.items ∧ target.name? = some name ∧
    addition = (inner.place file header).addition name members

end Scope

variable {file : Option String} {header : String} {addition : Addition}

mutual

theorem adds_of_mem_declared (s : Scope) : (item : Item) → item ∈ s.items →
    addition ∈ ((s.place file header).declared item).additions → s.Adds file header addition
  | .nested name items, listed, made => by
    rw [Place.declared] at made
    split at made
    · rw [(Place.foldl_declaredInHeader_adds _ _ _).2] at made
      cases made
    · rename_i outside
      let inside : Scope := ⟨s.names, ItemPath.join s.module name, items⟩
      obtain ⟨inner, target, members, own, reaches, rest⟩ :=
        adds_of_mem_declaredBy inside items (List.Subset.refl _) made
      exact ⟨inner, target, members, own, .nested listed outside reaches, rest⟩
  | .implementation target members, listed, made => by
    rw [Place.declared] at made
    split at made
    · rename_i name own
      rw [List.mem_singleton] at made
      exact ⟨s, target, members, name, .here s, listed, own, made⟩
    · cases made
  | .structure head, _, made => by
    rw [Place.declared] at made
    split at made <;> cases made
  | .synonym head target, _, made => by
    rw [Place.declared] at made
    split at made <;> cases made
  | .imports _, _, made | .enumeration _, _, made | .behaviour _, _, made | .constant .., _, made
  | .function .., _, made | .other, _, made => by cases made

theorem adds_of_mem_declaredBy (s : Scope) : (items : List Item) → items ⊆ s.items →
    addition ∈ ((s.place file header).declaredBy items).additions → s.Adds file header addition
  | [], _, made => by cases made
  | item :: items, among, made => by
    obtain ⟨here, later⟩ := List.cons_subset.1 among
    rcases List.mem_append.1 made with made | made
    · exact adds_of_mem_declared s item here made
    · exact adds_of_mem_declaredBy s items later made

end

theorem exists_addition {items : List Item} {module : String} {type : String × NativeType}
    {a : Accessor} (listed : type ∈ (bindingsOf items module header file).types)
    (accesses : a ∈ type.2.accessors) :
    ∃ addition, Scope.Adds ⟨.empty, module, items⟩ file header addition ∧
      addition.path = type.2.path ∧ a ∈ addition.accessors := by
  obtain ⟨i, inside, rfl⟩ := List.mem_iff_getElem.1 listed
  obtain ⟨length, each⟩ := List.forall₂_iff_get.1 (bindingsOf_types items module header file)
  obtain ⟨own, among, path, completed⟩ := each i (length ▸ inside) inside
  have accessors := congrArg (·.2.accessors) completed
  rw [List.get_eq_getElem] at accessors
  obtain ⟨addition, member, lists⟩ := List.mem_flatMap.1 (accessors ▸ accesses)
  exact ⟨addition, adds_of_mem_declaredBy ⟨.empty, module, items⟩ items (List.Subset.refl _)
    (among member), path addition member, lists⟩

theorem exists_signature {items : List Item} {module : String} {type : String × NativeType}
    {a : Accessor} (listed : type ∈ (bindingsOf items module header file).types)
    (accesses : a ∈ type.2.accessors) :
    ∃ s signature, Scope.Reaches header ⟨.empty, module, items⟩ s ∧
      s.Implements type.2.path signature ∧
      (s.place file header).accessor? (.function true signature) = some a := by
  obtain ⟨addition, ⟨s, target, members, name, reaches, implementation, own, rfl⟩, path, lists⟩ :=
    exists_addition listed accesses
  obtain ⟨member, function, reads⟩ := List.mem_filterMap.1 lists
  cases member with
  | function isPublic signature =>
    cases isPublic with
    | false => cases reads
    | true =>
      exact ⟨s, signature, reaches, ⟨target, members, name, implementation, own, path.symm,
        function⟩, reads⟩
  | constant name => cases reads
  | other => cases reads

theorem returned_types_recorded (items : List Item) (module header : String) (file : Option String)
    (type : String × NativeType) (a : Accessor)
    (listed : type ∈ (bindingsOf items module header file).types)
    (accesses : a ∈ type.2.accessors) :
    ∃ s signature, Scope.Reaches header ⟨.empty, module, items⟩ s ∧
      s.Implements type.2.path signature ∧
      (s.place file header).accessor? (.function true signature) = some a ∧
      ∀ first rest, signature.result = some (.path false (first :: rest)) →
        ∃ text, a.returnType = some text ∧ s.Records first rest text ∧
          ∀ separator member b, a.binding? separator = some (member, b) → b.rawType = text := by
  obtain ⟨s, signature, reaches, implements, reads⟩ := exists_signature listed accesses
  refine ⟨s, signature, reaches, implements, reads, ?_⟩
  intro first rest result
  have returned : a.returnType = signature.result.map (·.printed s.names) := by
    obtain rfl := Option.some_inj.1 reads
    rfl
  rw [result, Option.map_some] at returned
  refine ⟨_, returned, s.records first rest, ?_⟩
  intro separator member b bound
  exact Option.some_inj.1 ((Accessor.binding?_eq_some_iff.1 bound).returns.symm.trans returned)

def surfaceItems : List Item :=
  let segment : TypeForm := .path false [.applied "Segment" []]
  [.imports (.under "lawu_runtime" (.name "Segment")),
    .structure ⟨[], true, ⟨"VkExtent", ⟨2, 11⟩⟩⟩,
    .structure ⟨[], true, ⟨"VkSurface", ⟨3, 11⟩⟩⟩,
    .implementation (.path false [.plain "VkSurface"]) [
      .function true ⟨⟨"extent_get", ⟨5, 7⟩⟩, false, [segment],
        some (.path false [.plain "VkExtent"])⟩,
      .function true ⟨⟨"area_get", ⟨6, 7⟩⟩, false, [segment],
        some (.path false [.plain "self", .plain "VkExtent"])⟩]]

theorem returned_types_recorded_surface :
    let a : Accessor :=
      ⟨"extent_get", ["lawu_runtime::Segment"], some "VkExtent", ⟨none, some 5, some 7⟩⟩
    ∃ s signature, Scope.Reaches "vulkan_h" ⟨.empty, "crate::sys", surfaceItems⟩ s ∧
      s.Implements "crate::sys::VkSurface" signature ∧
      (s.place none "vulkan_h").accessor? (.function true signature) = some a ∧
      ∀ first rest, signature.result = some (.path false (first :: rest)) →
        ∃ text, a.returnType = some text ∧ s.Records first rest text ∧
          ∀ separator member b, a.binding? separator = some (member, b) → b.rawType = text :=
  returned_types_recorded surfaceItems "crate::sys" "vulkan_h" none
    ("crate::sys", {
      name := "VkSurface"
      path := "crate::sys::VkSurface"
      documentation := ""
      documentationLine := 3
      accessors := [
        ⟨"extent_get", ["lawu_runtime::Segment"], some "VkExtent", ⟨none, some 5, some 7⟩⟩,
        ⟨"area_get", ["lawu_runtime::Segment"], some "self::VkExtent", ⟨none, some 6, some 7⟩⟩]
      hasLayout := false
      location := ⟨none, some 3, some 11⟩ })
    ⟨"extent_get", ["lawu_runtime::Segment"], some "VkExtent", ⟨none, some 5, some 7⟩⟩
    (by decide) (by decide)

/-- The extent is recorded as the module itself names it, though both names mean one path. -/
theorem own_types_stay_relative :
    let s : Scope := ⟨.empty, "crate::sys", surfaceItems⟩
    (bindingsOf surfaceItems "crate::sys" "vulkan_h" none).types.flatMap
        (fun type => type.2.accessors.map (·.returnType)) =
      [some "VkExtent", some "self::VkExtent"] ∧
    ∀ others, s.Denotes others ["VkExtent"] ["crate", "sys", "VkExtent"] ∧
      s.Denotes others ["self", "VkExtent"] ["crate", "sys", "VkExtent"] := by
  intro s
  have path : s.path = ["crate", "sys"] := by decide
  have declares : s.Declares "VkExtent" := ⟨by decide, by decide⟩
  refine ⟨by decide, fun others => ⟨?_, ?_⟩⟩
  · have own : s.Denotes others ["VkExtent"] (s.path ++ ["VkExtent"]) := .declared declares
    rwa [path] at own
  · have own : s.Denotes others ["self", "VkExtent"] (fromRoot s.path ["self", "VkExtent"]) :=
      .positioned (by decide) (by rw [path]; decide)
    rwa [path] at own

end Bindwright.Source
