import BenchFigures.Chart.Frame
import BenchFigures.Image.Format

/-!
# The library that draws

Some of what a chart shows is not made by the program. It asks a library which points
of an axis to label, it hands texts and legends to it, with the bytes of a font, and it
has pictures encoded. The library is a parameter of everything that draws, and no law
is asked of it: a text may fail to be written, also after some of it was drawn, and the
choice of points may never end.

How the library divides a sheet, places values and draws bars and lines is fixed, and
defined with the parts of a chart.
-/

namespace BenchFigures

/-- The bytes of the font that is registered, if one is. -/
abbrev Typeface := Option (List UInt8)

/-- A text on a chart, with the strip it belongs to and, if it names a point of an axis,
the pixel of that point. -/
structure Inscription where
  text : String
  size : Nat
  strip : Box
  pixel : Option Int

/-- A line of a legend: a name, and what is drawn beside it at a given position. -/
structure LegendEntry where
  name : String
  mark : Int → Int → Mark

/-- A legend at the upper right of an area. Its opacity is that of its background. -/
structure Legend where
  area : Box
  background : Color
  opacity : Nat
  border : Color
  size : Nat
  entries : List LegendEntry

/-- What the library drew, and its account of what stopped it, if anything did. -/
structure Drawn where
  marks : List Mark
  fault : Option String

/-- What is left to the library. -/
class DrawingLibrary where
  /-- Whether some bytes are a font. -/
  accepts : List UInt8 → Bool
  /-- The labelled points of a range, at most so many, if the search for them ends. -/
  points? : Range → Nat → Option (List Float)
  /-- A text in a font. -/
  write : Typeface → Inscription → Drawn
  /-- A legend with its names in a font. -/
  explain : Typeface → Legend → Drawn
  /-- The bytes of a picture in a format. -/
  encode : Image.Format → Picture → List UInt8

end BenchFigures
