import Bindwright.Memory.Fault

/-!
Names for native numbers: the enumerators of an enumeration, and the flags of a set of flags. A set
keeps the bits that no flag stands for, so that it has the number it was made of.
-/

namespace Bindwright.Memory

class Enumerated (α : Type) where
  typeName : String
  nativeName : String
  all : List α
  name : α → String

class Enumeration (α : Type) extends Enumerated α where
  value : α → Int32

def Enumeration.ofValue {α : Type} [Enumeration α] (n : Int32) : Except ConversionError α :=
  match (Enumerated.all : List α).find? (value · == n) with
  | some a => .ok a
  | none => .error (.unknownValue (Enumerated.typeName α) n.toInt)

class BitFlag (α : Type) extends Enumerated α where
  bit : α → UInt32

namespace BitFlag

variable {α : Type} [BitFlag α]

def ofBit? (bits : UInt32) : Option α :=
  (Enumerated.all : List α).find? (bit · == bits)

def ofBitNamed (type : String) (bits : UInt32) : Except ConversionError α :=
  match ofBit? bits with
  | some a => .ok a
  | none => .error (.unknownValue type bits.toNat)

def ofBit (bits : UInt32) : Except ConversionError α :=
  ofBitNamed (Enumerated.typeName α) bits

end BitFlag

structure FlagSet (α : Type) where
  bits : UInt32
  deriving DecidableEq, Repr

namespace FlagSet

variable {α : Type}

def empty : FlagSet α := ⟨0⟩

def isEmpty (s : FlagSet α) : Bool := s.bits == 0

variable [BitFlag α]

/-- A flag that stands for no bit is in no set. -/
def contains (s : FlagSet α) (a : α) : Bool :=
  BitFlag.bit a != 0 && s.bits &&& BitFlag.bit a == BitFlag.bit a

def insert (s : FlagSet α) (a : α) : FlagSet α := ⟨s.bits ||| BitFlag.bit a⟩

def erase (s : FlagSet α) (a : α) : FlagSet α := ⟨s.bits &&& ~~~BitFlag.bit a⟩

def insertMany (s : FlagSet α) (flags : List α) : FlagSet α := flags.foldl insert s

def ofList (flags : List α) : FlagSet α := empty.insertMany flags

def all : FlagSet α := ofList Enumerated.all

def toList (s : FlagSet α) : List α := Enumerated.all.filter s.contains

def unknownBits (s : FlagSet α) : UInt32 :=
  (Enumerated.all : List α).foldl (fun bits a => bits &&& ~~~BitFlag.bit a) s.bits

def text (s : FlagSet α) : String :=
  let unknown := if s.unknownBits = 0 then [] else [hexadecimal s.unknownBits.toNat]
  "[" ++ ", ".intercalate (s.toList.map Enumerated.name ++ unknown) ++ "]"

end FlagSet

structure NumberTable where
  typeName : String
  all : List (String × Int)
  name : Int32 → Except ConversionError String

def NumberTable.ofEnumeration (α : Type) [Enumeration α] : NumberTable where
  typeName := Enumerated.typeName α
  all := (Enumerated.all : List α).map fun a => (Enumerated.name a, (Enumeration.value a).toInt)
  name n := do
    let a : α ← Enumeration.ofValue n
    return Enumerated.name a

def NumberTable.ofFlags (α : Type) [BitFlag α] : NumberTable where
  typeName := Enumerated.typeName α
  all := (Enumerated.all : List α).map fun a => (Enumerated.name a, (BitFlag.bit a).toNat)
  name n := do
    let a : α ← BitFlag.ofBit n.toUInt32
    return Enumerated.name a

end Bindwright.Memory
