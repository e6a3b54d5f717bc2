import BenchFigures.Number.Scalar
import BenchFigures.Chart.Picture

/-!
# Bars

A bar stands on zero and reaches to its value, as far as both lie in the plotted
range: base and top are each moved to the nearest point of the range.
-/

namespace BenchFigures

/-- A bar in chart coordinates. -/
structure Bar (α : Type) where
  left : α
  base : α
  right : α
  top : α
  color : Color

namespace Bar

variable {α : Type} [Scalar α]

/-- The width of every bar; two stand side by side within a category. -/
def width : α := 0.2

/-- The point of a range nearest to a value. What is no number stays what it is.
An inverted range, or one with an end that is no number, has no points. -/
def held? (low high value : α) : Option α :=
  if Scalar.le low high then
    some (if Scalar.lt value low then low else if Scalar.lt high value then high else value)
  else none

/-- The bar of a value with its left edge at a position, within a range. -/
def clipped? (left value low high : α) (color : Color) : Option (Bar α) := do
  let base ← held? low high (Scalar.ofInt 0)
  let top ← held? low high value
  return { left, base, right := left + width, top, color }

end Bar

end BenchFigures
