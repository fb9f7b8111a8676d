import Bindwright.Source.NativeBindings
import Mathlib.Data.List.Forall2

namespace Bindwright.Source

mutual

def Item.structures (header module : String) : Item → List (String × Head)
  | .structure head => if head.isPublic then [(module, head)] else []
  | .nested name items =>
    if name = header then [] else structuresAmong header (ItemPath.join module name) items
  | _ => []

def structuresAmong (header module : String) : List Item → List (String × Head)
  | [] => []
  | item :: items => item.structures header module ++ structuresAmong header module items

end

def CompletedBy (own : List Addition) (declared type : String × NativeType) : Prop :=
  type = (declared.1, { declared.2 with
    accessors := own.flatMap (·.accessors)
    hasLayout := own.any (·.hasLayout) })

namespace Place

variable (p : Place)

theorem declaredInHeader_adds (item : Item) :
    (p.declaredInHeader item).types = [] ∧ (p.declaredInHeader item).additions = [] := by
  fun_cases declaredInHeader <;> exact ⟨rfl, rfl⟩

theorem foldl_declaredInHeader_adds (items : List Item) (start : Declared) :
    ((items.map p.declaredInHeader).foldl (· ++ ·) start).types = start.types ∧
      ((items.map p.declaredInHeader).foldl (· ++ ·) start).additions = start.additions := by
  induction items generalizing start with
  | nil => exact ⟨rfl, rfl⟩
  | cons item items ih =>
    obtain ⟨types, additions⟩ := ih (start ++ p.declaredInHeader item)
    obtain ⟨noTypes, noAdditions⟩ := p.declaredInHeader_adds item
    rw [List.map_cons, List.foldl_cons, types, additions]
    constructor
    · exact (congrArg (start.types ++ ·) noTypes).trans (List.append_nil _)
    · exact (congrArg (start.additions ++ ·) noAdditions).trans (List.append_nil _)

mutual

theorem declared_types (p : Place) : (item : Item) →
    (p.declared item).types = (item.structures p.header p.module).map fun declared =>
      (declared.1, { p with module := declared.1 }.nativeType declared.2)
  | .structure head => by
    rw [declared, Item.structures]
    split <;> rfl
  | .nested name items => by
    rw [declared, Item.structures]
    split
    · rw [(foldl_declaredInHeader_adds _ _ _).1]
      rfl
    · rw [declaredBy_types (p.enter name items) items]
      rfl
  | .implementation target items => by
    rw [declared]
    split <;> rfl
  | .synonym head target => by
    rw [declared]
    split <;> rfl
  | .imports _ | .enumeration _ | .behaviour _ | .constant .. | .function .. | .other => rfl

theorem declaredBy_types (p : Place) : (items : List Item) →
    (p.declaredBy items).types = (structuresAmong p.header p.module items).map fun declared =>
      (declared.1, { p with module := declared.1 }.nativeType declared.2)
  | [] => rfl
  | item :: items => by
    rw [structuresAmong, List.map_append, ← declared_types p item, ← declaredBy_types p items]
    rfl

end

end Place

theorem forall₂_complete (additions : List Addition) (earlier : List String)
    (types : List (String × NativeType)) :
    List.Forall₂ (fun declared type =>
        ∃ own ⊆ additions.filter (·.path = declared.2.path), CompletedBy own declared type)
      types (complete additions earlier types) := by
  induction types generalizing earlier with
  | nil => exact .nil
  | cons declared types ih =>
    refine .cons ⟨_, ?_, rfl⟩ (ih _)
    split
    · exact List.nil_subset _
    · exact List.Subset.refl _

theorem bindingsOf_types (items : List Item) (module header : String) (file : Option String) :
    let place : Place := ⟨file, header, module, Names.within .empty module items⟩
    List.Forall₂ (fun (declared : String × Head) type =>
        ∃ own ⊆ (place.declaredBy items).additions, (∀ addition ∈ own, addition.path = type.2.path) ∧
          CompletedBy own
            (declared.1, { place with module := declared.1 }.nativeType declared.2) type)
      (structuresAmong header module items) (bindingsOf items module header file).types := by
  intro place
  have each := forall₂_complete (place.declaredBy items).additions []
    (place.declaredBy items).types
  rw [bindingsOf]
  dsimp only
  rw [place.declaredBy_types, List.forall₂_map_left_iff] at each
  rw [place.declaredBy_types]
  refine each.imp ?_
  rintro declared type ⟨own, among, completed⟩
  refine ⟨own, ?_, ?_, completed⟩
  · exact fun addition member => (List.mem_filter.1 (among member)).1
  · intro addition member
    rw [completed]
    exact of_decide_eq_true (List.mem_filter.1 (among member)).2

end Bindwright.Source
