import BenchFigures.Number.Binary64

/-!
# The fewest digits that read back

A decimal stands for the binary64 number nearest to it, so each finite number
owns an interval of reals. Its shortest decimal is the one of fewest digits in
that interval and, of those, the nearest to the number. On a decimal grid only
the two neighbours of the number need a test: if any point of the grid lies in
the interval, so does one of them. Seventeen digits are always enough.
-/

namespace BenchFigures

/-- A natural number scaled by a power of ten. -/
structure Decimal where
  significand : Nat
  exponent : Int
  deriving DecidableEq, Repr

namespace Decimal

/-- A power of ten, negative exponents included. -/
def powerOfTen (exponent : Int) : Rat :=
  if 0 ≤ exponent then (Nat.pow 10 exponent.toNat : Rat)
  else mkRat 1 (Nat.pow 10 (-exponent).toNat)

/-- The value of a decimal. -/
def value (decimal : Decimal) : Rat := decimal.significand * powerOfTen decimal.exponent

/-- How many decimal digits a natural number has; zero has one. -/
def digitCount (number : Nat) : Nat := (Nat.toDigits 10 number).length

/-- The least exponent whose power of ten exceeds a positive value. Above one it
counts the digits of the integer part; below one the reciprocal is counted. -/
def magnitude (positive : Rat) : Int :=
  if 1 ≤ positive then digitCount positive.floor.toNat
  else 1 - digitCount (positive.inv.ceil - 1).toNat

/-- The reals that round to one positive number, with the number among them. -/
structure RoundingInterval where
  lower : Rat
  number : Rat
  upper : Rat
  /-- The ends belong to the interval when the significand is even. -/
  closed : Bool

namespace RoundingInterval

/-- The interval of a significand and exponent. It reaches half a unit to both
sides, except that below a power of two the neighbours lie twice as close. -/
def of (significand : Nat) (exponent : Int) : RoundingInterval :=
  let closerBelow := significand = Nat.pow 2 52 ∧ -1074 < exponent
  { lower := Binary64.scaled (4 * significand - if closerBelow then 1 else 2) (exponent - 2)
    number := Binary64.scaled significand exponent
    upper := Binary64.scaled (4 * significand + 2) (exponent - 2)
    closed := significand % 2 = 0 }

/-- Whether a real rounds to the number. -/
def contains (interval : RoundingInterval) (real : Rat) : Bool :=
  if interval.closed then interval.lower ≤ real && real ≤ interval.upper
  else interval.lower < real && real < interval.upper

/-- The nearest point of the decimal grid of one exponent, if it lies inside. Of
two points equally near the upper one is taken. -/
def onGrid? (interval : RoundingInterval) (exponent : Int) : Option Decimal :=
  let below : Decimal := ⟨(interval.number / powerOfTen exponent).floor.toNat, exponent⟩
  let above : Decimal := { below with significand := below.significand + 1 }
  match interval.contains below.value, interval.contains above.value with
  | true, true =>
    some (if interval.number - below.value < above.value - interval.number then below else above)
  | true, false => some below
  | false, true => some above
  | false, false => none

/-- The point of the coarsest decimal grid that has one inside. Only on the first
grid can the upper neighbour of the leading digit be ten, which is one unit of the
next power. -/
def shortest (interval : RoundingInterval) : Decimal :=
  let top := magnitude interval.number
  let grids := (List.range 17).map fun (fewer : Nat) => top - 1 - (fewer : Int)
  let found := (grids.findSome? interval.onGrid?).getD ⟨0, 0⟩
  if found.significand = 10 then ⟨1, found.exponent + 1⟩ else found

end RoundingInterval

/-- The shortest decimal of a positive significand and exponent. -/
def shortest (significand : Nat) (exponent : Int) : Decimal :=
  (RoundingInterval.of significand exponent).shortest

end Decimal

end BenchFigures
