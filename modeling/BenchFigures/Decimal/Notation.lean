import BenchFigures.Decimal.Shortest

/-!
# How numbers are written

Messages show a number by its shortest decimal, never with an exponent. The
summary and the log show a fixed count of places, rounded from the exact binary
value with a half going to the even neighbour. The configuration dump writes the
shortest decimal too, but marks whole numbers with `.0` and uses an exponent far
from one.
-/

namespace BenchFigures.Decimal

/-- Digits with a decimal point so many places from their right end. Missing
places are filled with zeros, and at least one digit stands before the point. -/
def withPoint (digits : String) (places : Nat) : String :=
  if places = 0 then digits
  else
    let filled := List.replicate (places + 1 - digits.length) '0' ++ digits.toList
    let whole := filled.length - places
    String.ofList (filled.take whole) ++ "." ++ String.ofList (filled.drop whole)

/-- A decimal written out, without an exponent. -/
def positional (decimal : Decimal) : String :=
  let digits := toString decimal.significand
  if 0 ≤ decimal.exponent then digits ++ String.ofList (List.replicate decimal.exponent.toNat '0')
  else withPoint digits (-decimal.exponent).toNat

/-- A decimal with one digit before the point and an exponent after it. -/
def scientific (decimal : Decimal) : String :=
  let digits := toString decimal.significand
  withPoint digits (digits.length - 1) ++ "e" ++
    toString (decimal.exponent + (digits.length : Int) - 1)

/-- The sign, then a text for the size: each kind of number has its own. -/
def signed (negative : Bool) (size : String) : String := if negative then "-" ++ size else size

/-- A binary64 number written by its kind; `finite` writes a positive one. -/
def write (number : Float) (zero : String) (finite : Nat → Int → String) : String :=
  match Binary64.unpack number with
  | .notANumber => "NaN"
  | .infinity sign => signed (sign matches .negative) "inf"
  | .zero sign => signed (sign matches .negative) zero
  | .finite sign significand exponent _ =>
    signed (sign matches .negative) (finite significand exponent)

/-- The shortest decimal, written out. -/
def plain (number : Float) : String :=
  write number "0" fun significand exponent => (shortest significand exponent).positional

/-- Whether the configuration dump writes a positive value with an exponent. -/
def isRemote (value : Rat) : Bool :=
  value < mkRat 1 10000 || mkRat (Nat.pow 10 16) 1 ≤ value

/-- The shortest decimal as the configuration dump writes it: whole numbers end
in `.0`, and numbers far from one have an exponent. -/
def dumped (number : Float) : String :=
  write number "0.0" fun significand exponent =>
    let decimal := shortest significand exponent
    if isRemote (Binary64.scaled significand exponent) then decimal.scientific
    else if 0 ≤ decimal.exponent then decimal.positional ++ ".0" else decimal.positional

/-- The nearest integer to a value that is not negative, a half going to the
even neighbour. -/
def nearestEven (value : Rat) : Nat :=
  let below := value.floor.toNat
  let above := below + 1
  let toBelow := value - below
  if toBelow < mkRat 1 2 then below
  else if mkRat 1 2 < toBelow then above
  else if below % 2 = 0 then below else above

/-- A number with a fixed count of decimal places. The sign of the number stays,
also in front of a rounded zero. -/
def fixed (places : Nat) (number : Float) : String :=
  write number (withPoint "0" places) fun significand exponent =>
    let units := nearestEven (Binary64.scaled significand exponent * powerOfTen places)
    withPoint (toString units) places

/-- As `fixed`, with a plus sign in front of whatever has no minus sign. Only
not-a-number has no sign at all. -/
def fixedSigned (places : Nat) (number : Float) : String :=
  if number.isNaN || Binary64.isNegative number then fixed places number
  else "+" ++ fixed places number

end BenchFigures.Decimal
