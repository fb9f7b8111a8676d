import Bindwright.Memory.Arena
import Bindwright.Memory.Scalar

namespace Bindwright.Memory.Segment

def null : Segment := ⟨0, 0⟩

def ofAddress (a : Address) (length : Nat) : Segment := ⟨a.value.toNat, length⟩

def address (s : Segment) : Address := ⟨UInt64.ofNat s.start⟩

def isEmpty (s : Segment) : Bool := s.length == 0

def text (s : Segment) : String :=
  "Segment \x7b address: " ++ s.address.text ++ ", len: " ++ Nat.repr s.length ++ " \x7d"

def slice (s : Segment) (offset length : Nat) : Except Fault Segment :=
  if offset + length ≤ s.length then .ok ⟨s.start + offset, length⟩
  else .error (.misuse (.outOfBounds offset length s.length))

theorem slice_eq_ok_iff {s window : Segment} {offset length : Nat} :
    s.slice offset length = .ok window ↔
      offset + length ≤ s.length ∧ window = ⟨s.start + offset, length⟩ := by
  unfold slice
  split
  · rename_i inside
    simp [inside, eq_comm]
  · rename_i outside
    exact iff_of_false nofun fun within => outside within.1

def bytes (s : Segment) : Access (List UInt8) :=
  return (← read).read s.start s.length

def get {α : Type} [Scalar α] (s : Segment) (offset : Nat) : Access α := do
  let window ← s.slice offset (Scalar.width α)
  return Scalar.decode (← window.bytes)

def set {α : Type} [Scalar α] (s : Segment) (offset : Nat) (a : α) : Action Unit := do
  let window ← s.slice offset (Scalar.width α)
  overwrite window.start (Scalar.encode a)

structure Elements where
  segment : Segment
  stride : Nat
  offset : Nat

namespace Elements

/-- The next window. Windows without bytes would never end, so there are none. -/
def next? (e : Elements) : Option (Segment × Elements) :=
  if e.stride = 0 ∨ e.offset + e.stride > e.segment.length then none
  else some (⟨e.segment.start + e.offset, e.stride⟩, { e with offset := e.offset + e.stride })

theorem next?_eq_some_iff {e rest : Elements} {window : Segment} :
    e.next? = some (window, rest) ↔
      0 < e.stride ∧ e.segment.slice e.offset e.stride = .ok window ∧
        rest = { e with offset := e.offset + e.stride } := by
  rw [slice_eq_ok_iff, next?]
  split
  · refine iff_of_false nofun fun ⟨positive, inside, _⟩ => ?_
    omega
  · rename_i room
    have positive : 0 < e.stride := by omega
    have inside : e.offset + e.stride ≤ e.segment.length := by omega
    simp [positive, inside, eq_comm]

def toList (e : Elements) : List Segment :=
  match _next : e.next? with
  | none => []
  | some (window, rest) => window :: rest.toList
termination_by e.segment.length - e.offset
decreasing_by
  obtain ⟨positive, slice, rfl⟩ := next?_eq_some_iff.1 _next
  obtain ⟨room, -⟩ := slice_eq_ok_iff.1 slice
  dsimp only
  omega

end Elements

def elements (s : Segment) (stride : Nat) : List Segment := Elements.toList ⟨s, stride, 0⟩

def toList (α : Type) [Scalar α] (s : Segment) : Access (List α) :=
  (s.elements (Scalar.width α)).mapM (·.get 0)

def fill {α : Type} (s : Segment) (stride : Nat) (write : α → Segment → Action Unit)
    (values : List α) : Action Unit := do
  let elements := s.elements stride
  if values.length ≠ elements.length then
    throw (.conversion (.lengthMismatch elements.length values.length))
  (elements.zip values).forM fun (element, a) => write a element

def ofList {α : Type} [Scalar α] (s : Segment) (values : List α) : Action Unit :=
  s.fill (Scalar.width α) (fun a element => element.set 0 a) values

def copyFrom (s source : Segment) : Action Unit := do
  let window ← s.slice 0 source.length
  overwrite window.start (← source.bytes)

def readText (s : Segment) : Access String := do
  let bytes := (← s.bytes).takeWhile (· != 0)
  match String.fromUTF8? ⟨bytes.toArray⟩ with
  | some text => return text
  | none => throw (.conversion .invalidText)

/-- Writes a text and fills the rest with zeros, of which there is one at least. -/
def writeText (s : Segment) (text : String) : Action Unit := do
  let bytes := text.toUTF8.data.toList
  if 0 ∈ bytes then throw (.conversion .interiorNul)
  if bytes.length ≥ s.length then
    throw (.conversion (.textTooLong bytes.length (s.length - 1)))
  overwrite s.start (bytes ++ List.replicate (s.length - bytes.length) 0)

end Bindwright.Memory.Segment

namespace Bindwright.Memory

class Structure (α : Type) where
  layout : Layout
  read : Segment → Access α
  write : α → Segment → Action Unit

namespace Structure

variable {α : Type} [Structure α]

def store (a : α) : Action Segment := do
  let s ← allocate (layout α)
  write a s
  return s

def readElements (s : Segment) : Access (List α) :=
  (s.elements (layout α).size).mapM read

def writeElements (values : List α) (s : Segment) : Action Unit :=
  s.fill (layout α).size write values

end Structure
end Bindwright.Memory
