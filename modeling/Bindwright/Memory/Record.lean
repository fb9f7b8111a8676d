import Bindwright.Memory.Chain
import Bindwright.Memory.Enumeration

namespace Bindwright.Memory

inductive Outline where
  | number (n : Int)
  | wide (n : Nat)
  | fraction (bits : UInt32)
  | flags (bits : UInt32) (text : String)
  | text (t : String)
  | list (items : List Outline)
  | record (fields : List (String × Outline))

class Outlined (α : Type) where
  outline : α → Outline

export Outlined (outline)

instance : Outlined UInt32 := ⟨fun n => .number n.toNat⟩

instance : Outlined Int32 := ⟨fun n => .number n.toInt⟩

instance : Outlined UInt64 := ⟨fun n => .wide n.toNat⟩

instance : Outlined Single := ⟨fun x => .fraction x.bits⟩

instance : Outlined Address := ⟨fun a => .wide a.value.toNat⟩

instance : Outlined String := ⟨.text⟩

instance {α : Type} [BitFlag α] : Outlined (FlagSet α) := ⟨fun s => .flags s.bits s.text⟩

instance {α : Type} [Outlined α] : Outlined (List α) := ⟨fun items => .list (items.map outline)⟩

instance (priority := low) {α : Type} [Enumerated α] : Outlined α :=
  ⟨fun a => .text (Enumerated.name a)⟩

structure Slot (α : Type) where
  read : Segment → Access α
  write : α → Segment → Action Unit

namespace Slot

variable (α : Type)

def scalar [Scalar α] (offset : Nat) : Slot α where
  read s := s.get offset
  write a s := s.set offset a

def flags [BitFlag α] (offset : Nat) : Slot (FlagSet α) where
  read s := return ⟨← s.get offset⟩
  write a s := s.set offset a.bits

def oneFlag [BitFlag α] (offset : Nat) : Slot α where
  read s := do BitFlag.ofBit (← s.get offset)
  write a s := s.set offset (BitFlag.bit a)

def enumerator [Enumeration α] (offset : Nat) : Slot α where
  read s := do Enumeration.ofValue (← s.get offset)
  write a s := s.set offset (Enumeration.value a)

def nested [Structure α] (offset length : Nat) : Slot α where
  read s := do Structure.read (← s.slice offset length)
  write a s := do Structure.write a (← s.slice offset length)

def scalars [Scalar α] (offset length : Nat) : Slot (List α) where
  read s := do (← s.slice offset length).toList α
  write values s := do (← s.slice offset length).ofList values

def structures [Structure α] (offset length : Nat) : Slot (List α) where
  read s := do Structure.readElements (← s.slice offset length)
  write values s := do Structure.writeElements values (← s.slice offset length)

def text (offset length : Nat) : Slot String where
  read s := do (← s.slice offset length).readText
  write t s := do (← s.slice offset length).writeText t

end Slot

structure Part (σ : Type) where
  name : String
  outline : σ → Outline
  view : Option (Segment → Access Outline)
  write : σ → Segment → Action Unit

namespace Part

def ofSlot {σ α : Type} [Outlined α] (name : String) (slot : Slot α) (value : σ → α) : Part σ where
  name := name
  outline a := Memory.outline (value a)
  view := some fun s => return Memory.outline (← slot.read s)
  write a s := slot.write (value a) s

def chain {σ ι : Type} [Chain.Item ι] (items : σ → List ι) : Part σ where
  name := "next"
  outline a := Memory.outline ((items a).map Chain.Item.structureType)
  view := none
  write a s := do
    let old : Address ← s.get Chain.linkOffset
    s.set Chain.linkOffset (← Chain.link (items a) old)

end Part

class Record (σ : Type) where
  nativeName : String
  layout : Layout
  parts : List (Part σ)
  read : Segment → Access σ

namespace Record

variable {σ : Type} [Record σ]

instance : Structure σ where
  layout := layout σ
  read := read
  write a s := parts.forM fun part : Part σ => part.write a s

instance : Outlined σ :=
  ⟨fun a => .record (parts.map fun part : Part σ => (part.name, part.outline a))⟩

def views (σ : Type) [Record σ] : List (String × (Segment → Access Outline)) :=
  (parts : List (Part σ)).filterMap fun part => part.view.map (part.name, ·)

end Record
structure Inspection where
  layout : Layout
  value : Except Fault Outline
  rewritten : Except Fault (List UInt8)
  view : Option (Except Fault (List (String × Except Fault Outline)))

def storedBytes {σ : Type} [Structure σ] (a : σ) : Except Fault (List UInt8) :=
  let stored : Action (List UInt8) := do (← Structure.store a).bytes
  (stored Arena.empty).1

def readBytes {α : Type} (read : Segment → Access α) (bytes : List UInt8) : Except Fault α :=
  read ⟨Arena.empty.top, bytes.length⟩ (Contents.zero.write Arena.empty.top bytes)

def inspect (σ : Type) [Structure σ] [Outlined σ]
    (view : Option (List (String × (Segment → Access Outline)))) (bytes : List UInt8) :
    Inspection :=
  let value : Except Fault σ := readBytes Structure.read bytes
  { layout := Structure.layout σ
    value := outline <$> value
    rewritten := value >>= storedBytes
    view := view.map fun parts => match value with
      | .error (.misuse m) => .error (.misuse m)
      | _ => .ok (parts.map fun (name, read) => (name, readBytes read bytes)) }

def inspectRecord (σ : Type) [Record σ] : List UInt8 → Inspection :=
  inspect σ (some (Record.views σ))

end Bindwright.Memory
