import Bindwright.Proofs.Chain.Items
import Bindwright.Memory.Record

namespace Bindwright.Memory

open Chain

variable {σ ι : Type} [Item ι] {items : σ → List ι} {v : σ} {s : Segment}

theorem Part.chain_write_error {before after : Arena} {fault : Fault}
    (room : header.size ≤ s.length)
    (failed : (items v).mapM Item.allocate before = (.error fault, after)) :
    (Part.chain items).write v s before = (.error fault, after) := by
  have get := Segment.get_apply (α := Address) s before.contents room
  refine (Action.bind_ok (Action.lift_apply get) _).trans ?_
  exact Action.bind_error (Action.bind_error failed _) _

theorem Part.chain_write {before allocated : Arena} {nodes : List Segment} {old : Address}
    (room : header.size ≤ s.length) (held : s.get linkOffset before.contents = .ok old)
    (made : (items v).mapM Item.allocate before = (.ok nodes, allocated))
    (large : ∀ node ∈ nodes, header.size ≤ node.length) :
    (Part.chain items).write v s before =
      (.ok (), { allocated with
        contents := (linked nodes old allocated.contents).write (s.start + linkOffset)
          (Scalar.encode (headOf nodes old)) }) := by
  have threaded : link (items v) old before = _ :=
    (Action.bind_ok made _).trans (thread_apply large old allocated)
  refine (Action.bind_ok (Action.lift_apply held) _).trans ?_
  exact (Action.bind_ok threaded _).trans (Segment.set_apply s _ _ room)

theorem Part.chain_stores (room : header.size ≤ s.length) (none_ : items v = []) :
    Stores ((Part.chain items).write v s) (s.start + linkOffset) (s.start + header.size) none []
      fun _ => True := by
  have kept (arena : Arena) : (Part.chain items).write v s arena = (.ok (), arena) := by
    have get : s.get linkOffset arena.contents = .ok (Scalar.decode (arena.contents.read
        (s.start + linkOffset) (Scalar.width Address)) : Address) := Segment.get_apply s _ room
    have made : (items v).mapM Item.allocate arena = (.ok [], arena) := by
      rw [none_]
      rfl
    rw [chain_write room get made nofun]
    simp only [linked, headOf]
    rw [Scalar.encode_decode (Contents.length_read ..), Contents.write_read_self]
  have unchanged := (Stores.nil (s.start + linkOffset)).mono (Nat.le_refl _)
    (Nat.add_le_add_left (show linkOffset ≤ header.size by decide) s.start)
  have same : (Part.chain items).write v s = pure () := funext kept
  rwa [same]

end Bindwright.Memory
