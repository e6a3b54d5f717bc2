import BenchFigures.Number.Scalar

/-!
# Gridlines

The gridlines of a range are the multiples of a step that lie in it. The ends get
a small tolerance, so that rounding does not lose a line that falls on an end.
More lines than a chart can sensibly hold are refused before any is made.
-/

namespace BenchFigures

/-- Why there are no gridlines. -/
inductive GridFault where
  | badStep
  | tooManyLines
  deriving DecidableEq, Repr

namespace Grid

variable {α : Type} [Scalar α]

/-- From this many steps between the first and the last line there are too many. -/
def limit : Int := 1000

/-- How far outside the range, in steps, a line may lie. -/
def tolerance : α := 1e-9

/-- The 64-bit signed integer nearest to an integer. -/
def heldToSigned64 (number : Int) : Int := max (-Nat.pow 2 63) (min number (Nat.pow 2 63 - 1))

/-- The integers from the first to the last. -/
def between (first last : Int) : List Int :=
  (List.range (last + 1 - first).toNat).map fun (offset : Nat) => first + offset

/-- The numbers of the first and last line: the least and greatest multiple of
the step in the range. Too many lines are refused, and so is a range so wide or
a step so small that their quotient is not finite. -/
def bounds (low high step : α) : Except GridFault (Int × Int) :=
  if !Scalar.isFinite step || Scalar.le step (Scalar.ofInt 0) then .error .badStep
  else
    match Scalar.ceil? (low / step - tolerance), Scalar.floor? (high / step + tolerance) with
    | some first, some last =>
      if limit ≤ last - first then .error .tooManyLines else .ok (first, last)
    | _, _ => .error .tooManyLines

/-- The gridlines of a range, in ascending order. -/
def lines (low high step : α) : Except GridFault (List α) := do
  let (first, last) ← bounds low high step
  return (between (heldToSigned64 first) (heldToSigned64 last)).map fun number =>
    Scalar.ofInt number * step

end Grid

end BenchFigures
