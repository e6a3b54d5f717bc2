import BenchFigures.Number.Binary64
import BenchFigures.Chart.Picture

/-!
# From chart coordinates to pixels

A frame places a range of values along each side of a rectangle of pixels. The
lower end of a range falls on the first pixel and the upper end on the last one;
values between are placed in proportion and cut to whole pixels, with a small
allowance for rounding. Rows count downwards, so heights run against them. Pixels
are counted in 32 bits with a sign, and a sum too large for that wraps around.
Everything is finally held within the rectangle.
-/

namespace BenchFigures

/-- A range of values along one side of a chart. -/
structure Range where
  low : Float
  high : Float

namespace Range

/-- The pixel so many pixels away from another, in 32 bits. -/
def away (start distance : Int) : Int := (start + distance).bmod (Nat.pow 2 32)

/-- The pixel of a value when the range runs from one pixel to another. A range
of one single value puts everything at half the distance. -/
def place (range : Range) (start finish : Int) (value : Float) : Int :=
  let distance := finish - start
  if range.low == range.high then distance.tdiv 2
  else
    let share := (value - range.low) / (range.high - range.low)
    if distance = 0 then finish
    else if share.isInf then if 0.0 < share then finish else start
    else if 0 < distance then
      away start (Binary64.toSigned32 Rat.floor (Float.ofInt distance * share + 0.001))
    else away start (Binary64.toSigned32 Rat.ceil (Float.ofInt distance * share - 0.001))

end Range

/-- The plotting area of a chart: a rectangle of pixels, right and bottom ones
left out, with a range along each side. -/
structure Frame where
  area : Box
  horizontal : Range
  vertical : Range

namespace Frame

/-- Hold a number between two others; the lower one wins if they are inverted. -/
def held (lowest highest number : Int) : Int := max (min number highest) lowest

/-- The column of a horizontal value, wherever it falls. -/
def freeColumn (frame : Frame) (value : Float) : Int :=
  frame.horizontal.place frame.area.left (frame.area.right - 1) value

/-- The row of a vertical value, wherever it falls. -/
def freeRow (frame : Frame) (value : Float) : Int :=
  frame.vertical.place (frame.area.bottom - 1) frame.area.top value

/-- The column of a horizontal value, held within the area. -/
def column (frame : Frame) (value : Float) : Int :=
  held frame.area.left frame.area.right (frame.freeColumn value)

/-- The row of a vertical value, held within the area. -/
def row (frame : Frame) (value : Float) : Int :=
  held frame.area.top frame.area.bottom (frame.freeRow value)

/-- The rectangle with two opposite corners at given values. -/
def rectangle (frame : Frame) (left base right top : Float) : Box :=
  Box.between (frame.column left, frame.row base) (frame.column right, frame.row top)

/-- The line across the whole area at a height. -/
def across (frame : Frame) (height : Float) : Box :=
  Box.horizontalLine (frame.row height) (frame.column frame.horizontal.low)
    (frame.column frame.horizontal.high)

/-- The line up the whole area at its left side. -/
def leftSide (frame : Frame) : Box :=
  Box.verticalLine (frame.column frame.horizontal.low) (frame.row frame.vertical.low)
    (frame.row frame.vertical.high)

end Frame

end BenchFigures
