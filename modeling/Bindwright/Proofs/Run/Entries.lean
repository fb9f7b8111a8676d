import Bindwright.Proofs.Member.Redirection
import Bindwright.Proofs.Registry.Founded
import Bindwright.Proofs.Run.Population

namespace Bindwright

def Plan.Asks (b : Bindings) (p : Plan) (q : Request) : Prop :=
  q ∈ Population.structureRequests b p.directives ∨
    ∃ module ∈ p.headerDestination, ∃ g ∈ headerGroups b.constants,
      q = Registry.groupRequestOf b.headerModule module g

theorem NativeType.exists_shapeOf_value {asked : Request → Prop} {r : Registry}
    (founded : r.Founded asked) (t : NativeType) (b : Bindings) (m : Member) (rawType : String)
    (value : m.declarator = .value) : ∃ shape, t.shapeOf m rawType r b = .ok shape := by
  unfold shapeOf
  rw [value]
  cases here : r.get? m.typeName with
  | none => exact ⟨_, rfl⟩
  | some mapping =>
    cases mapping with
    | flagBits owner flags =>
      rcases founded _ _ here with ⟨q, members, valueType, pending, -⟩ | ⟨path, existing⟩
      · exact ⟨.flagBit q.destination.path, by simp only [mappedShape, pending]⟩
      · obtain ⟨other, found, there⟩ := Option.bind_eq_some_iff.1 existing
        refine ⟨.flagBit path, ?_⟩
        cases other with
        | pending q => cases there
        | _ => simp only [mappedShape, found, there]
    | _ => exact ⟨_, rfl⟩

namespace Population

variable {b : Bindings} {p : Plan}

theorem founded_explicitState (asked : Request → Prop) (p : Plan) :
    (explicitState p).1.Founded asked := by
  intro name m found
  rw [(holds_explicit p).1.lookup] at found
  obtain ⟨path, -, rfl⟩ := Option.map_eq_some_iff.1 found
  trivial

theorem founded_populate {asked : Request → Prop}
    (structures : ∀ q ∈ structureRequests b p.directives, asked q)
    (groups : ∀ module ∈ p.headerDestination, ∀ g ∈ headerGroups b.constants, g.Clashless →
      asked (Registry.groupRequestOf b.headerModule module g)) :
    (populate b p).1.Founded asked := by
  rw [populate_eq]
  let Invariant (s : State) : Prop := s.1.Founded asked
  suffices Invariant (addOthers b p (explicitState p)) from this
  have pointers := List.foldlRecOn (motive := Invariant) (functionPointers b p.directives)
    addFunctionPointer (founded_explicitState _ p)
    fun s founded pointer _ => founded.addFunctionPointer pointer.name pointer.path
  have header := List.foldlRecOn (motive := Invariant) p.headerDestination.toList (addHeader b)
    pointers fun s founded module member =>
      founded.addHeader (groups module (Option.mem_toList.1 member))
  exact List.foldlRecOn (motive := Invariant) (structureRequests b p.directives) addStructure
    header fun s founded q member => founded.addRequest (structures q member)

theorem populate_founded (b : Bindings) (p : Plan) : (populate b p).1.Founded (p.Asks b) :=
  founded_populate (fun _ => .inl) fun module member g group _ => .inr ⟨module, member, g, group, rfl⟩

theorem consistent_populate (b : Bindings) (p : Plan) :
    Registry.Consistent (populate b p).1 := by
  rw [populate_eq]
  suffices Registry.Consistent (addOthers b p (explicitState p)).1 from
    ⟨this.distinct, this.own, this.distinctClaims, this.claimed, this.absent⟩
  rw [fst_addOthers, fst_explicitState]
  exact ((Registry.consistent_withMaterialized p.materialized).run _).run _

theorem asks_of_mem_requests {q : Request} (pending : q ∈ (populate b p).1.requests) :
    p.Asks b q :=
  populate_founded b p q.native (.pending q) ((consistent_populate b p).mem_requests_iff.1 pending)

/-- In the registry of a plan every type that reads as one of some flags has its flags: they are to
be generated, or they exist. Hence a member that is one value of any type has a shape. -/
theorem flag_bits_resolve (b : Bindings) (p : Plan) :
    let r := (populate b p).1
    (∀ native owner flags, r.get? native = some (.flagBits owner flags) →
      (∃ q members valueType, r.get? flags = some (.pending q) ∧
        q.product = .constants .flags members valueType) ∨
      ∃ path, r.existingPath? flags = some path) ∧
    ∀ (t : NativeType) (layer : Bindings) (m : Member) (rawType : String),
      m.declarator = .value → ∃ shape, t.shapeOf m rawType r layer = .ok shape := by
  intro r
  have founded : r.Founded (p.Asks b) := populate_founded b p
  exact ⟨fun native owner flags found => founded native _ found,
    fun t layer m rawType value => t.exists_shapeOf_value founded layer m rawType value⟩

def wrapAll : Plan :=
  { overrides := [], scanned := [], materialized := []
    directives := [⟨"bindings", "crate::vk"⟩], headerDestination := some "crate::vk" }

theorem flag_bits_resolve_queueBit :
    let r := (populate (Registry.headerOf [Registry.queueBit]) wrapAll).1
    r.get? "VkQueueFlagBits" = some (.flagBits "VkQueueFlagBits" "VkQueueFlags") ∧
      ((∃ q members valueType, r.get? "VkQueueFlags" = some (.pending q) ∧
        q.product = .constants .flags members valueType) ∨
      ∃ path, r.existingPath? "VkQueueFlags" = some path) ∧
      ∃ shape, NativeType.familyProperties.shapeOf ⟨"queueFlag", "VkQueueFlagBits", .value, .start⟩
        "i32" r NativeType.noBindings = .ok shape := by
  intro r
  have found : r.get? "VkQueueFlagBits" = some (.flagBits "VkQueueFlagBits" "VkQueueFlags") := by
    decide +kernel
  obtain ⟨flags, shaped⟩ := flag_bits_resolve (Registry.headerOf [Registry.queueBit]) wrapAll
  exact ⟨found, flags _ _ _ found, shaped _ _ _ _ rfl⟩

end Population
end Bindwright
