import Bindwright.Proofs.Run.Entries

namespace Bindwright

def Plan.destinations (p : Plan) : List String :=
  p.headerDestination.toList ++ p.directives.map (·.destination)

namespace Naming

open Text

def NoFinalCapital (name : String) : Prop := ∀ c ∈ name.toList.getLast?, isUppercase c = false

theorem noFinalCapital_structureName (native : String) :
    NoFinalCapital (structureName native) := by
  intro c last
  rw [structureName, String.toList_ofList, structureNameChars] at last
  exact eq_false_of_getLast?_trimEndWhile last

theorem noFinalCapital_flagName (native : String) : NoFinalCapital (flagName native) := by
  intro c last
  rw [flagName, String.toList_ofList, List.getLast?_append_of_ne_nil _ (by decide)] at last
  cases last
  decide

theorem noFinalCapital_typeName (group : ConstantGroup) (native : String) :
    NoFinalCapital (group.typeName native) := by
  cases group with
  | flags => exact noFinalCapital_flagName native
  | values => exact noFinalCapital_structureName native

end Naming

namespace Plan.Asks

variable {b : Bindings} {p : Plan} {q : Request}

theorem module_mem (asks : p.Asks b q) : q.destination.module ∈ p.destinations := by
  rcases asks with wrapped | ⟨module, destination, g, -, rfl⟩
  · obtain ⟨d, directive, structures⟩ := List.mem_flatMap.1 wrapped
    obtain ⟨t, -, rfl⟩ := List.mem_map.1 structures
    exact List.mem_append_right _ (List.mem_map_of_mem directive)
  · exact List.mem_append_left _ (Option.mem_toList.2 destination)

theorem noFinalCapital_name (asks : p.Asks b q) : Naming.NoFinalCapital q.destination.name := by
  rcases asks with wrapped | ⟨module, -, g, -, rfl⟩
  · obtain ⟨d, -, structures⟩ := List.mem_flatMap.1 wrapped
    obtain ⟨t, -, rfl⟩ := List.mem_map.1 structures
    exact Naming.noFinalCapital_structureName t.name
  · exact Naming.noFinalCapital_typeName g.group g.native

end Plan.Asks

namespace Population

variable {b : Bindings} {p : Plan} {q q' : Request}

theorem nodup_requests (b : Bindings) (p : Plan) : (populate b p).1.requests.Nodup :=
  List.Nodup.of_map _ (consistent_populate b p).nodup_destinations

theorem module_mem_destinations (pending : q ∈ (populate b p).1.requests) :
    q.destination.module ∈ p.destinations :=
  (asks_of_mem_requests pending).module_mem

theorem noFinalCapital_name (pending : q ∈ (populate b p).1.requests) :
    Naming.NoFinalCapital q.destination.name :=
  (asks_of_mem_requests pending).noFinalCapital_name

theorem eq_of_mem_requests (pending : q ∈ (populate b p).1.requests)
    (pending' : q' ∈ (populate b p).1.requests)
    (module : q.destination.module = q'.destination.module)
    (name : q.destination.name = q'.destination.name) : q = q' := by
  have same : q.destination = q'.destination := congrArg₂ Destination.mk module name
  exact List.inj_on_of_nodup_map (consistent_populate b p).nodup_destinations pending pending'
    (congrArg Destination.path same)

end Population
end Bindwright
