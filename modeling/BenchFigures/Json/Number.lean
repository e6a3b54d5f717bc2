import BenchFigures.Decimal.Numeral

/-!
# Numbers in JSON

A number is kept as it is written until something is asked of it. As a size it
must be a whole number without a sign. As a binary64 number it is read in two
steps: digits are taken as long as they fit 64 bits, then the number they denote,
rounded, is multiplied or divided by a power of ten. Both steps round, so the
result may differ from the nearest number in its last place.
-/

namespace BenchFigures.Json

/-- An exponent: whether it is negative, and its digits. -/
structure Exponent where
  negative : Bool
  digits : List Char
  deriving DecidableEq, Repr

/-- A number as written: sign, digits before and after the point, exponent. -/
structure Number where
  negative : Bool
  whole : List Char
  fraction : Option (List Char)
  exponent : Option Exponent
  deriving DecidableEq, Repr

namespace Number

/-- One more than the greatest number of 64 bits. -/
def significandLimit : Nat := Nat.pow 2 64

/-- Take digits as long as the number they denote fits 64 bits. The answer is that
number, how many digits were taken and how many were left. -/
def takeDigits : Nat → List Char → Nat × Nat × Nat
  | significand, [] => (significand, 0, 0)
  | significand, digit :: rest =>
    let next := 10 * significand + (Numeral.digit? digit).getD 0
    if significandLimit ≤ next then (significand, 0, rest.length + 1)
    else
      let (value, taken, left) := takeDigits next rest
      (value, taken + 1, left)

/-- Whether the number is written without a fraction and an exponent. -/
def isWhole (number : Number) : Bool := number.fraction.isNone && number.exponent.isNone

/-- The number as a size of so many bits. Zero with a sign is none. -/
def size? (bits : Nat) (number : Number) : Option Nat :=
  let value := Numeral.valueOf number.whole 0
  if number.isWhole && !number.negative && value < Nat.pow 2 bits then some value else none

/-- The powers of ten within the range of binary64. -/
def largestPower : Nat := 308

/-- Multiply or divide by a power of ten. Division goes in steps where the power
itself is out of range; a few suffice to reach zero. Too large a number is none. -/
def scale? : Nat → Float → Int → Option Float
  | 0, number, _ => some number
  | steps + 1, number, exponent =>
    if exponent.natAbs ≤ largestPower then
      let power := Float.ofScientific 1 false exponent.natAbs
      if 0 ≤ exponent then
        if (number * power).isInf then none else some (number * power)
      else some (number / power)
    else if number == 0.0 then some number
    else if 0 ≤ exponent then none
    else scale? steps (number / Float.ofScientific 1 false largestPower) (exponent + largestPower)

/-- The greatest exponent that is computed with. -/
def exponentLimit : Nat := Nat.pow 2 31 - 1

/-- The size of the number, its sign left out. Digits that do not fit count as
zeros before the point and as nothing after it. -/
def magnitude? (number : Number) : Option Float :=
  let (whole, _, left) := takeDigits 0 number.whole
  let (significand, taken, _) := takeDigits whole (number.fraction.getD [])
  let point : Int := (left : Int) - taken
  match number.exponent with
  | none => scale? 8 (Float.ofNat significand) point
  | some exponent =>
    let size := Numeral.valueOf exponent.digits 0
    if exponentLimit < size then
      if significand ≠ 0 && !exponent.negative then none else some 0.0
    else
      scale? 8 (Float.ofNat significand) (if exponent.negative then point - size else point + size)

/-- The number in binary64. -/
def float? (number : Number) : Option Float :=
  number.magnitude?.map fun size => if number.negative then -size else size

end Number

end BenchFigures.Json
