import Bindwright.Text.Case

namespace Bindwright.Naming

def smallNumbers : List String :=
  ["zero", "one", "two", "three", "four", "five", "six", "seven", "eight", "nine", "ten",
   "eleven", "twelve", "thirteen", "fourteen", "fifteen", "sixteen", "seventeen", "eighteen",
   "nineteen"]

def tens : List String :=
  ["twenty", "thirty", "forty", "fifty", "sixty", "seventy", "eighty", "ninety"]

def scales : List (Nat × String) :=
  [(1000000000000000000, "quintillion"), (1000000000000000, "quadrillion"),
   (1000000000000, "trillion"), (1000000000, "billion"), (1000000, "million"),
   (1000, "thousand")]

def wordBelowHundred (n : Nat) : String :=
  if n < 20 then smallNumbers.getD n ""
  else
    let ten := tens.getD (n / 10 - 2) ""
    if n % 10 = 0 then ten else ten ++ "-" ++ smallNumbers.getD (n % 10) ""

def wordsBelowThousand (n : Nat) : List String :=
  if n < 100 then [wordBelowHundred n]
  else
    [smallNumbers.getD (n / 100) "", "hundred"] ++
      if n % 100 = 0 then [] else [wordBelowHundred (n % 100)]

def wordsByScale : List (Nat × String) → Nat → List String
  | [], n => if n = 0 then [] else wordsBelowThousand n
  | (scale, word) :: rest, n =>
    if n < scale then wordsByScale rest n
    else wordsBelowThousand (n / scale) ++ word :: wordsByScale rest (n % scale)

def numberWords (n : Nat) : List String :=
  if n = 0 then ["zero"] else wordsByScale scales n

def spellOut (n : Nat) : String := " ".intercalate (numberWords n)

def numberConstant (n : Nat) : List Char :=
  Text.uppercase <| (spellOut n).toList.map fun c => if c = ' ' ∨ c = '-' then '_' else c

def digitsValue (digits : List Char) : Nat :=
  digits.foldl (fun n d => 10 * n + (d.toNat - '0'.toNat)) 0

/-- A number at the start of a name is spelled out: `64_BIT` is `SIXTY_FOUR_BIT`. A `D` right after
it reads as a dimension, so `2D` is `TWO_DIMENSIONAL`. A number of 65 bits or more stays. -/
def spellLeadingDigits (name : String) : String :=
  let digits := name.toList.takeWhile Char.isDigit
  let rest := name.toList.dropWhile Char.isDigit
  if digits.isEmpty then name
  else
    let value := digitsValue digits
    let number := if value < UInt64.size then numberConstant value else digits
    String.ofList <| number ++
      match rest with
      | [] => []
      | 'D' :: more => "_DIMENSIONAL".toList ++ more
      | '_' :: more => '_' :: more
      | other => '_' :: other

end Bindwright.Naming
