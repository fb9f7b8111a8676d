import Bindwright.Memory.Segment

/-!
Chains of structures. Each begins with a number for its type and the link to the next; a chain ends
at the null link. To write a chain is to set links only. To read one is to follow the links and
to leave out what no reader is there for.
-/

namespace Bindwright.Memory.Chain

def linkOffset : Nat := 8

def header : Layout := ⟨16, 8⟩

class Item (α : Type) where
  structureType : α → Int32
  allocate : α → Action Segment

structure Reader (α : Type) where
  structureType : Int32
  layout : Layout
  read : Segment → Access α

def Reader.text {α : Type} (r : Reader α) : String :=
  "NextReader \x7b structure_type: " ++ Int.repr r.structureType.toInt ++ ", layout: " ++
    r.layout.text ++ " \x7d"

def Reader.map {α β : Type} (f : α → β) (r : Reader α) : Reader β :=
  { r with read := fun s => f <$> r.read s }

/-- Links every node to the one after it and the last to `tail`, the last first. The result is
where the chain begins. -/
def thread (nodes : List Segment) (tail : Address) : Action Address :=
  nodes.foldrM (fun node next => do
    node.set linkOffset next
    return node.address) tail

def link {α : Type} [Item α] (items : List α) (tail : Address) : Action Address := do
  thread (← items.mapM Item.allocate) tail

/-- Follows the links from `next`. A chain that comes back to a visited node is refused. -/
def follow {α : Type} (readers : List (Reader α)) :
    (fuel : Nat) → (visited : List Address) → (next : Address) → Access (List α)
  | 0, _, next => throw (.conversion (.chainCycle next))
  | fuel + 1, visited, next => do
    if next.isNull then return []
    if next ∈ visited then throw (.conversion (.chainCycle next))
    let node := Segment.ofAddress next header.size
    let structureType : Int32 ← node.get 0
    let item ← (readers.find? (·.structureType == structureType)).mapM fun reader =>
      reader.read (.ofAddress next reader.layout.size)
    let rest ← follow readers fuel (next :: visited) (← node.get linkOffset)
    return item.toList ++ rest

/-- The values of the chain that begins at `head`. There are `UInt64.size` addresses, so after as
many nodes comes null or an address that was visited. -/
def read {α : Type} (readers : List (Reader α)) (head : Address) : Access (List α) :=
  follow readers (UInt64.size + 1) [] head

def addressesFrom : (fuel : Nat) → (visited : List Address) → (next : Address) →
    Access (List Address)
  | 0, _, _ => return []
  | fuel + 1, visited, next => do
    if next.isNull ∨ next ∈ visited then return []
    let node := Segment.ofAddress next header.size
    return next :: (← addressesFrom fuel (next :: visited) (← node.get linkOffset))

def addresses (head : Address) : Access (List Address) :=
  addressesFrom (UInt64.size + 1) [] head

structure Node where
  structureType : Int32
  payload : UInt32
  isChained : Bool := false
  deriving DecidableEq, Repr

namespace Node

def layout : Layout := ⟨24, 8⟩

def payloadOffset : Nat := 16

instance : Item Node where
  structureType := structureType
  allocate n := do
    if n.isChained then throw (.conversion (.nestedChain n.structureType))
    let s ← Memory.allocate layout
    s.set 0 n.structureType
    s.set payloadOffset n.payload
    return s

def read (s : Segment) : Access Node :=
  return { structureType := ← s.get 0, payload := ← s.get payloadOffset }

def reader (structureType : Int32) : Reader Node := ⟨structureType, layout, read⟩

end Node
end Bindwright.Memory.Chain
