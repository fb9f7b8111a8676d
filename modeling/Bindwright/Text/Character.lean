namespace Bindwright.Text

def isBlank (c : Char) : Bool :=
  let n := c.toNat
  (0x09 ≤ n && n ≤ 0x0D) || n == 0x20 || n == 0x85 || n == 0xA0 || n == 0x1680 ||
    (0x2000 ≤ n && n ≤ 0x200A) || n == 0x2028 || n == 0x2029 || n == 0x202F || n == 0x205F ||
    n == 0x3000

def trimStart (cs : List Char) : List Char := cs.dropWhile isBlank

end Bindwright.Text

namespace Bindwright.Text.Hexadecimal

def ofByte (b : UInt8) : List Char := [b.toNat / 16, b.toNat % 16].map Nat.digitChar

def ofBytes (bytes : List UInt8) : String := String.ofList (bytes.flatMap ofByte)

def digit? (c : Char) : Option Nat :=
  if '0' ≤ c ∧ c ≤ '9' then some (c.toNat - '0'.toNat)
  else if 'a' ≤ c ∧ c ≤ 'f' then some (c.toNat - 'a'.toNat + 10)
  else none

def bytesOf? : List Char → Option (List UInt8)
  | [] => some []
  | [_] => none
  | a :: b :: rest => do
    return UInt8.ofNat (16 * (← digit? a) + (← digit? b)) :: (← bytesOf? rest)

def toBytes? (text : String) : Option (List UInt8) := bytesOf? text.toList

end Bindwright.Text.Hexadecimal

namespace Bindwright.Text

structure Stripe where
  first : Nat
  last : Nat
  step : Nat

def Stripe.contains (s : Stripe) (n : Nat) : Bool :=
  s.first ≤ n && n ≤ s.last && (n - s.first) % s.step == 0

structure Shift where
  stripe : Stripe
  distance : Int

def Shift.target? (s : Shift) (n : Nat) : Option Nat :=
  if s.stripe.contains n then some (n + s.distance).toNat else none

def inStripes (stripes : List Stripe) (n : Nat) : Bool :=
  stripes.any (·.contains n)

end Bindwright.Text
