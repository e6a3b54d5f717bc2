import BenchFigures.Number.Binary64

/-!
# The numbers of a benchmark

Averages, speedups, gridlines and axis ranges are defined once, over any type of
numbers with the operations below. The program computes with binary64 numbers;
the same definitions read over the rationals say what would come out without
rounding, infinities and not-a-number.
-/

namespace BenchFigures

/-- The arithmetic that the figures need. Comparisons are Boolean and false on
numbers that cannot be compared; `floor?` and `ceil?` have no answer for a
number without a finite value. -/
class Scalar (α : Type) extends Add α, Sub α, Mul α, Div α, OfScientific α where
  /-- The number of an integer. -/
  ofInt : Int → α
  /-- Strictly less. -/
  lt : α → α → Bool
  /-- Less or equal. -/
  le : α → α → Bool
  /-- Whether this is a number at all. -/
  isNumber : α → Bool
  /-- The greatest integer at or below. -/
  floor? : α → Option Int
  /-- The least integer at or above. -/
  ceil? : α → Option Int
  /-- Where a sum starts; adding it changes nothing. -/
  emptySum : α
  /-- What stands for the least of no numbers. -/
  leastOfNone : α
  /-- What stands for the greatest of no numbers. -/
  greatestOfNone : α

namespace Scalar

variable {α : Type} [Scalar α]

/-- Whether a number has a finite value. -/
def isFinite (number : α) : Bool := (floor? number).isSome

/-- The lesser of two numbers, the first if neither is less. -/
def lesser (first second : α) : α := if lt second first then second else first

/-- The greater of two numbers, the first if neither is greater. -/
def greater (first second : α) : α := if lt first second then second else first

/-- The least of the numbers in a list. What is no number does not count. -/
def least (numbers : List α) : α :=
  match numbers.filter isNumber with
  | [] => leastOfNone
  | first :: rest => rest.foldl lesser first

/-- The greatest of the numbers in a list. What is no number does not count. -/
def greatest (numbers : List α) : α :=
  match numbers.filter isNumber with
  | [] => greatestOfNone
  | first :: rest => rest.foldl greater first

/-- The sum from left to right. The order matters where sums are rounded. -/
def sum (numbers : List α) : α := numbers.foldl (· + ·) emptySum

/-- The sum divided by the count. -/
def mean (numbers : List α) : α := sum numbers / ofInt numbers.length

/-- The mean squared distance from the mean. -/
def variance (numbers : List α) : α :=
  let average := mean numbers
  mean (numbers.map fun number => (number - average) * (number - average))

end Scalar

/-- Binary64 arithmetic. A sum starts at negative zero, the neutral element of
rounded addition. -/
instance : Scalar Float where
  ofInt := Float.ofInt
  lt first second := decide (first < second)
  le first second := decide (first ≤ second)
  isNumber number := !number.isNaN
  floor? := Binary64.floor?
  ceil? := Binary64.ceil?
  emptySum := -0.0
  leastOfNone := 1.0 / 0.0
  greatestOfNone := -1.0 / 0.0

/-- Exact arithmetic. There is no infinity, so zero stands for the least and the
greatest of no numbers. -/
instance : Scalar Rat where
  ofInt := Rat.ofInt
  lt first second := decide (first < second)
  le first second := decide (first ≤ second)
  isNumber _ := true
  floor? number := some number.floor
  ceil? number := some number.ceil
  emptySum := 0
  leastOfNone := 0
  greatestOfNone := 0

end BenchFigures
