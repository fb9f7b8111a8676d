import Bindwright.Proofs.Registry.Run

namespace Bindwright.Registry

variable {r : Registry} {native : String} {old : Mapping}

theorem addMapping_rejected {path : String} (rejected : (r.addMapping native path).2 ≠ none) :
    ∃ old, r.get? native = some old ∧ old.request? = none ∧
      (r.addMapping native path).1 = r.moveLast native old := by
  rcases addMapping_cases r native path with ⟨-, added⟩ | ⟨q, -, accepted⟩ | ⟨name, p, -, moved⟩ |
    ⟨old, here, settled, moved⟩
  · exact absurd (congrArg Prod.snd added) rejected
  · exact absurd accepted rejected
  · exact absurd (congrArg Prod.snd moved) rejected
  · exact ⟨old, here, settled, congrArg Prod.fst moved⟩

theorem addFunctionPointer_rejected {path : String}
    (rejected : (r.addFunctionPointer native path).2 ≠ none) :
    (r.addFunctionPointer native path).1 = r := by
  unfold addFunctionPointer at rejected ⊢
  split at rejected
  · exact absurd rfl rejected
  · exact absurd rfl rejected
  · rfl

theorem addFlagBits_rejected {flags : String}
    (rejected : (r.addFlagBits native flags).2 ≠ none) : (r.addFlagBits native flags).1 = r := by
  unfold addFlagBits at rejected ⊢
  split at rejected
  · exact absurd rfl rejected
  · split <;> rfl

theorem addRequest_rejected {q : Request} (rejected : (r.addRequest q).2 ≠ none) :
    (r.addRequest q).1 = r := by
  rcases addRequest_cases r q with ⟨_, _, -, -, skipped⟩ | ⟨_, -, -, refused⟩ | ⟨-, redirected⟩ |
    ⟨_, -, -, refused⟩ | ⟨-, -, -, queued⟩
  · exact absurd (congrArg Prod.snd skipped) rejected
  · rw [refused]
  · exact absurd (congrArg Prod.snd redirected) rejected
  · rw [refused]
  · exact absurd (congrArg Prod.snd queued) rejected

theorem entries_moveLast (distinct : r.mappings.keys.Nodup) (here : r.get? native = some old) :
    (r.moveLast native old).mappings.entries =
      r.mappings.entries.filter (·.1 ≠ native) ++ r.mappings.entries.filter (·.1 = native) := by
  rw [Table.filter_key_eq distinct here]
  exact Table.entries_insert_erase r.mappings native old

theorem moveLast_eq_self_iff (distinct : r.mappings.keys.Nodup)
    (here : r.get? native = some old) :
    r.moveLast native old = r ↔ r.mappings.keys.getLast? = some native := by
  rw [← Table.insert_erase_eq_self_iff distinct here]
  constructor
  · exact congrArg mappings
  · intro same
    exact congrArg (fun t => { r with mappings := t }) same

theorem requests_moveLast (distinct : r.mappings.keys.Nodup)
    (here : r.get? native = some old) (settled : old.request? = none) :
    (r.moveLast native old).requests = r.requests := by
  have ofEntries (s : Registry) : s.requests = s.mappings.entries.filterMap (·.2.request?) :=
    List.filterMap_map
  have inert : ∀ e ∈ r.mappings.entries.filter (·.1 = native), e.2.request? = none := by
    rw [Table.filter_key_eq distinct here]
    exact List.forall_mem_singleton.2 settled
  rw [ofEntries, ofEntries, entries_moveLast distinct here, List.filterMap_append,
    List.filterMap_eq_nil_iff.2 inert, List.append_nil, List.filterMap_filter]
  refine List.filterMap_congr fun e member => ?_
  by_cases other : e.1 = native
  · rw [inert e (List.mem_filter.2 ⟨member, decide_eq_true other⟩)]
    simp
  · simp [other]

/-- `s` has the content of `r`, the order of the mappings apart. -/
structure SameContent (r s : Registry) : Prop where
  lookup : ∀ name, s.get? name = r.get? name
  requests : s.requests = r.requests
  claims : s.claims = r.claims
  materialized : s.materialized = r.materialized
  notes : s.notes = r.notes

theorem SameContent.refl (r : Registry) : SameContent r r := ⟨fun _ => rfl, rfl, rfl, rfl, rfl⟩

theorem sameContent_moveLast (distinct : r.mappings.keys.Nodup)
    (here : r.get? native = some old) (settled : old.request? = none) :
    SameContent r (r.moveLast native old) where
  lookup name := by
    rw [renames_moveLast]
    split
    · rename_i same
      rw [same, here]
    · rfl
  requests := requests_moveLast distinct here settled
  claims := rfl
  materialized := rfl
  notes := rfl

theorem register_single {call : Registration} (single : ∀ b module, call ≠ .header b module)
    (rejected : (r.register call).2 ≠ []) :
    (∃ native path old, call = .mapping native path ∧ r.get? native = some old ∧
        old.request? = none ∧ (r.register call).1 = r.moveLast native old) ∨
      (∀ native path, call ≠ .mapping native path) ∧ (r.register call).1 = r := by
  have failed {x : Registry × Option Failure} (h : (x.map id Option.toList).2 ≠ []) :
      x.2 ≠ none := fun none => h (congrArg Option.toList none)
  cases call with
  | mapping native path =>
    obtain ⟨old, here, settled, after⟩ := addMapping_rejected (failed rejected)
    exact .inl ⟨native, path, old, rfl, here, settled, after⟩
  | functionPointer native path =>
    exact .inr ⟨nofun, addFunctionPointer_rejected (failed rejected)⟩
  | flagBits native flags => exact .inr ⟨nofun, addFlagBits_rejected (failed rejected)⟩
  | request q => exact .inr ⟨nofun, addRequest_rejected (failed rejected)⟩
  | header b module => exact absurd rfl (single b module)

/-- In each registry `r` that registrations lead to, a call that is rejected keeps the content of
the registry. A mapping puts the entry that it names behind the others, so all is as before exactly
if the call is no mapping or names the last entry. -/
theorem rejected_keeps_all_but_order (paths : List String) (calls : List Registration)
    (call : Registration) (single : ∀ b module, call ≠ .header b module)
    (rejected : (((withMaterialized paths).run calls).register call).2 ≠ []) :
    let r := (withMaterialized paths).run calls
    let s := (r.register call).1
    SameContent r s ∧
      (∀ native path, call = .mapping native path → s.mappings.entries =
        r.mappings.entries.filter (·.1 ≠ native) ++ r.mappings.entries.filter (·.1 = native)) ∧
      (s = r ↔ ∀ native path, call = .mapping native path →
        r.mappings.keys.getLast? = some native) := by
  intro r s
  have distinct : r.mappings.keys.Nodup :=
    ((consistent_withMaterialized paths).run calls).distinct
  rcases register_single single rejected with ⟨native, path, old, rfl, here, settled, after⟩ |
    ⟨other, after⟩
  · have after : s = r.moveLast native old := after
    rw [after]
    refine ⟨sameContent_moveLast distinct here settled, ?_, ?_⟩
    · intro native' path' same
      cases same
      exact entries_moveLast distinct here
    · rw [moveLast_eq_self_iff distinct here]
      refine ⟨fun last native' path' same => ?_, fun last => last native path rfl⟩
      cases same
      exact last
  · have after : s = r := after
    rw [after]
    refine ⟨.refl r, fun native path same => absurd same (other native path), ?_⟩
    exact iff_of_true rfl fun native path same => absurd same (other native path)

def twoMapped : List Registration :=
  [.mapping "VkA" "crate::a::A", .mapping "VkB" "crate::b::B",
    .request ⟨"VkC", "bindings", ⟨"crate::c", "C"⟩, .wrapper, .unknown⟩]

theorem rejected_keeps_all_but_order_twoMapped :
    let r := (withMaterialized []).run twoMapped
    let s := r.register (.mapping "VkA" "crate::c::A")
    s.2 ≠ [] ∧ SameContent r s.1 ∧ s.1 ≠ r := by
  intro r s
  have rejected : s.2 ≠ [] := by decide
  obtain ⟨content, -, unmoved⟩ := rejected_keeps_all_but_order [] twoMapped
    (.mapping "VkA" "crate::c::A") (fun _ _ same => nomatch same) rejected
  refine ⟨rejected, content, fun same => ?_⟩
  have last : r.mappings.keys.getLast? = some "VkC" := by decide
  have named := (unmoved.1 same "VkA" "crate::c::A" rfl).symm.trans last
  exact absurd named (by decide)

/-- A rejected mapping is seen in the order of the mappings. -/
theorem rejected_mapping_reorders :
    let r := (withMaterialized []).run
      [.mapping "VkA" "crate::a::A", .mapping "VkB" "crate::b::B"]
    let s := r.register (.mapping "VkA" "crate::c::A")
    s.2 = [alreadyMapped "VkA" (.existing "VkA" "crate::a::A")] ∧
      r.mappings.keys = ["VkA", "VkB"] ∧ s.1.mappings.keys = ["VkB", "VkA"] := by
  decide

end Bindwright.Registry
