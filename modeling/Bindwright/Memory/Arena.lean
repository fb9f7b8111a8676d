import Bindwright.Memory.Fault

/-!
What memory holds, and the arena that hands it out. A read sees the contents only; an action may
change them and allocate, and what it did before it failed stays done.
-/

namespace Bindwright.Memory

structure Contents where
  byte : Nat → UInt8

namespace Contents

def zero : Contents := ⟨fun _ => 0⟩

def read (m : Contents) (start length : Nat) : List UInt8 :=
  (List.range length).map fun i => m.byte (start + i)

def write (m : Contents) (start : Nat) (bytes : List UInt8) : Contents :=
  let bytes := bytes.toArray
  ⟨fun a => if start ≤ a then
    match bytes[a - start]? with
    | some b => b
    | none => m.byte a
    else m.byte a⟩

def clear (m : Contents) (start length : Nat) : Contents :=
  ⟨fun a => if start ≤ a ∧ a < start + length then 0 else m.byte a⟩

@[simp] theorem length_read (m : Contents) (start length : Nat) :
    (m.read start length).length = length := by simp [read]

theorem getElem?_read (m : Contents) {start length i : Nat} (h : i < length) :
    (m.read start length)[i]? = some (m.byte (start + i)) := by simp [read, h]

theorem byte_write (m : Contents) (start : Nat) (bytes : List UInt8) (a : Nat) :
    (m.write start bytes).byte a =
      if start ≤ a then bytes[a - start]?.getD (m.byte a) else m.byte a := by
  simp only [write, List.getElem?_toArray]
  split
  · cases bytes[a - start]? <;> rfl
  · rfl

theorem read_write_self (m : Contents) (start : Nat) (bytes : List UInt8) :
    (m.write start bytes).read start bytes.length = bytes := by
  apply List.ext_getElem?
  intro i
  by_cases h : i < bytes.length
  · rw [getElem?_read _ h, byte_write]
    simp [h]
  · rw [List.getElem?_eq_none (by simpa using h), List.getElem?_eq_none (by omega)]

end Contents

structure Segment where
  start : Nat
  length : Nat
  deriving DecidableEq, Repr

structure Arena where
  contents : Contents
  top : Nat
  allocations : Nat

namespace Arena

def empty : Arena := ⟨.zero, 4096, 0⟩

def text (a : Arena) : String :=
  "Arena \x7b allocations: " ++ Nat.repr a.allocations ++ " \x7d"

end Arena

abbrev Access := ReaderT Contents (Except Fault)

abbrev Action := ExceptT Fault (StateM Arena)

instance : MonadLift Access Action where
  monadLift read := fun arena => (read arena.contents, arena)

def overwrite (start : Nat) (bytes : List UInt8) : Action Unit :=
  modify fun arena => { arena with contents := arena.contents.write start bytes }

def maximalBlock : Nat := 9223372036854775807

/-- Hands out zeroed memory. Every block takes a positive number of whole words, so that each
starts at a multiple of eight and no two start at one address. -/
def allocate (layout : Layout) : Action Segment := do
  if layout.align > 8 then throw (.misuse (.alignment layout.align))
  let arena ← get
  let block := 8 * max ((layout.size + 7) / 8) 1
  if block > maximalBlock ∨ arena.top + block > UInt64.size then throw (.misuse .exhausted)
  set { arena with
    contents := arena.contents.clear arena.top block
    top := arena.top + block
    allocations := arena.allocations + 1 }
  return ⟨arena.top, layout.size⟩

end Bindwright.Memory
