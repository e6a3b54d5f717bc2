import BenchFigures.Chart.Library
import BenchFigures.Chart.Ticks
import BenchFigures.Image.Bitmap
import BenchFigures.Image.Jpeg
import BenchFigures.Image.Png

/-!
# A library without letters

The library that the program is run with. All its fonts have empty glyphs, so texts leave
no pixels, and it draws no legend. It takes for a font whatever starts as outline fonts do,
and its pictures are not compressed. What is proved of charts holds for every library.
-/

namespace BenchFigures.DrawingLibrary

/-- Whether bytes start as outline fonts do: with their version number. -/
def isOutlineFont (bytes : List UInt8) : Bool := bytes.take 4 = [0, 1, 0, 0]

/-- Nothing drawn. A text needs a font all the same. -/
def invisible : Typeface → Drawn
  | some _ => ⟨[], none⟩
  | none => ⟨[], some "Font loading error: no font is registered"⟩

/-- The library without letters. -/
instance blank : DrawingLibrary where
  accepts := isOutlineFont
  points? range count := Ticks.points? range.low range.high count
  write typeface _ := invisible typeface
  explain typeface _ := invisible typeface
  encode
    | .png, picture => (Image.Png.encode picture).toList
    | .bitmap, picture => (Image.Bitmap.encode picture).toList
    | .jpeg, picture => (Image.Jpeg.encode picture).toList

end BenchFigures.DrawingLibrary
