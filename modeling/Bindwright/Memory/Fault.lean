namespace Bindwright.Memory

structure Address where
  value : UInt64
  deriving DecidableEq, Repr

namespace Address

def null : Address := ⟨0⟩

def isNull (a : Address) : Bool := a.value == 0

end Address

def hexadecimal (n : Nat) : String := "0x" ++ String.ofList (Nat.toDigits 16 n)

def Address.text (a : Address) : String := "Address(" ++ hexadecimal a.value.toNat ++ ")"

structure Layout where
  size : Nat
  align : Nat
  deriving DecidableEq, Repr

def Layout.text (l : Layout) : String :=
  "Layout \x7b size: " ++ Nat.repr l.size ++ ", align: " ++ Nat.repr l.align ++ " \x7d"

inductive Misuse where
  | outOfBounds (offset length size : Nat)
  | alignment (align : Nat)
  | exhausted
  deriving DecidableEq, Repr

/-- An end that is no 64-bit number is shown as the greatest one. -/
def Misuse.message : Misuse → String
  | outOfBounds offset length size =>
    "segment access out of bounds: " ++ Nat.repr offset ++ ".." ++
      Nat.repr (min (offset + length) (UInt64.size - 1)) ++ " in a segment of " ++ Nat.repr size ++
      " bytes"
  | alignment align => "arena cannot satisfy alignment " ++ Nat.repr align
  | exhausted => "capacity overflow"

inductive ConversionError where
  | textTooLong (length capacity : Nat)
  | interiorNul
  | invalidText
  | lengthMismatch (expected found : Nat)
  | unknownValue (type : String) (value : Int)
  | chainCycle (address : Address)
  | nestedChain (structureType : Int32)
  deriving DecidableEq, Repr

def ConversionError.message : ConversionError → String
  | textTooLong length capacity =>
    "Text of " ++ Nat.repr length ++ " bytes does not fit a buffer holding " ++ Nat.repr capacity
  | interiorNul => "Text contains an interior NUL byte"
  | invalidText => "Native text is not valid UTF-8"
  | lengthMismatch expected found =>
    "Expected " ++ Nat.repr expected ++ " elements, found " ++ Nat.repr found
  | unknownValue type value => "Unknown " ++ type ++ " value: " ++ Int.repr value
  | chainCycle address => "Next chain cycles back to " ++ address.text
  | nestedChain structureType =>
    "Structure type " ++ Int.repr structureType.toInt ++
      " carries its own next chain inside another chain"

inductive Fault where
  | misuse (cause : Misuse)
  | conversion (cause : ConversionError)
  deriving DecidableEq, Repr

instance : MonadLift (Except ConversionError) (Except Fault) := ⟨Except.mapError .conversion⟩

end Bindwright.Memory
