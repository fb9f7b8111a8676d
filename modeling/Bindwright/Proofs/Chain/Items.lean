import Bindwright.Proofs.Chain.Standing
import Bindwright.Proofs.Memory.Allocation

namespace Bindwright.Memory.Chain

variable {ι : Type} [Item ι]

/-- Items are copied into memory of their own, which begins with room for type and link. -/
class LawfulItem (ι : Type) [Item ι] : Prop where
  extends_allocate {item : ι} {before after : Arena} {result : Except Fault Segment} :
    Item.allocate item before = (result, after) → before.Extends after
  adds_allocate {item : ι} {before after : Arena} {node : Segment} :
    Item.allocate item before = (.ok node, after) →
      before.Adds node after ∧ header.size ≤ node.length

inductive Allocations : List ι → List Segment → Arena → Arena → Prop where
  | nil (arena : Arena) : Allocations [] [] arena arena
  | cons {item : ι} {items : List ι} {node : Segment} {nodes : List Segment}
      {before between after : Arena} (first : Item.allocate item before = (.ok node, between))
      (rest : Allocations items nodes between after) :
      Allocations (item :: items) (node :: nodes) before after

theorem allocations_of_mapM {items : List ι} {nodes : List Segment} {before after : Arena}
    (allocated : items.mapM Item.allocate before = (.ok nodes, after)) :
    Allocations items nodes before after := by
  induction items generalizing nodes before with
  | nil =>
    cases allocated
    exact .nil _
  | cons item items ih =>
    rw [List.mapM_cons] at allocated
    obtain ⟨e, -, same⟩ | ⟨node, between, first, allocated⟩ := Action.bind_cases allocated
    · cases same
    · obtain ⟨e, -, same⟩ | ⟨nodes', last, rest, done⟩ := Action.bind_cases allocated
      · cases same
      · cases done
        exact .cons first (ih rest)

variable [LawfulItem ι]

theorem extends_of_mapM {items : List ι} {result : Except Fault (List Segment)}
    {before after : Arena} (run : items.mapM Item.allocate before = (result, after)) :
    before.Extends after := by
  induction items generalizing before result with
  | nil =>
    cases run
    exact .refl _
  | cons item items ih =>
    rw [List.mapM_cons] at run
    obtain ⟨e, first, -⟩ | ⟨node, between, first, run⟩ := Action.bind_cases run
    · exact LawfulItem.extends_allocate first
    · refine (LawfulItem.extends_allocate first).trans ?_
      obtain ⟨e, rest, -⟩ | ⟨nodes, last, rest, done⟩ := Action.bind_cases run
      · exact ih rest
      · cases done
        exact ih rest

theorem Allocations.extends {items : List ι} {nodes : List Segment} {before after : Arena}
    (run : Allocations items nodes before after) : before.Extends after := by
  induction run with
  | nil arena => exact .refl arena
  | cons first rest ih => exact (LawfulItem.extends_allocate first).trans ih

theorem Allocations.each {items : List ι} {nodes : List Segment} {before after : Arena}
    (run : Allocations items nodes before after) :
    List.Forall₂ (fun item node => ∃ earlier later, before.Extends earlier ∧
      Item.allocate item earlier = (.ok node, later) ∧ later.Extends after) items nodes := by
  induction run with
  | nil arena => exact .nil
  | cons first rest ih =>
    refine .cons ⟨_, _, .refl _, first, rest.extends⟩ (ih.imp ?_)
    rintro item node ⟨earlier, later, ext, allocated, ext'⟩
    exact ⟨earlier, later, (LawfulItem.extends_allocate first).trans ext, allocated, ext'⟩

theorem Allocations.adds {items : List ι} {nodes : List Segment} {before after : Arena}
    (run : Allocations items nodes before after) :
    ∀ node ∈ nodes, before.Adds node after ∧ header.size ≤ node.length := by
  induction run with
  | nil arena => exact nofun
  | cons first rest ih =>
    obtain ⟨adds, large⟩ := LawfulItem.adds_allocate first
    have ext := LawfulItem.extends_allocate first
    intro node member
    rcases List.mem_cons.1 member with rfl | later
    · exact ⟨⟨adds.above, adds.below.trans rest.extends.top_le, adds.bound⟩, large⟩
    · obtain ⟨adds', large'⟩ := ih node later
      exact ⟨⟨ext.top_le.trans adds'.above, adds'.below, adds'.bound⟩, large'⟩

theorem Allocations.apart {items : List ι} {nodes : List Segment} {before after : Arena}
    (run : Allocations items nodes before after) : nodes.Pairwise Apart := by
  induction run with
  | nil arena => exact .nil
  | cons first rest ih =>
    refine .cons (fun other member => Set.disjoint_left.2 fun x inside inside' => ?_) ih
    have below := (LawfulItem.adds_allocate first).1.below
    have above := (rest.adds other member).1.above
    exact absurd (inside.2.trans_le (below.trans (above.trans inside'.1))) (Nat.lt_irrefl x)

end Bindwright.Memory.Chain
