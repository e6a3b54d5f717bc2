/-!
# Pictures

A picture is a white sheet with rectangles painted over it, later ones over earlier
ones. Everything a chart shows is such a rectangle: a bar, a line one pixel thick, or
a pixel of a letter. A paint may let what is beneath show through. What lies beyond
the sheet is cut off.

A row of pixels is written as runs of equal pixels. Rows can only differ across
the upper or lower edge of some rectangle, so a picture is written as bands of
equal rows without visiting every pixel.
-/

namespace BenchFigures

/-- A colour by its red, green and blue parts. -/
structure Color where
  red : UInt8
  green : UInt8
  blue : UInt8
  deriving DecidableEq, Repr

namespace Color

/-- The colour of an empty sheet. -/
def white : Color := ⟨255, 255, 255⟩

/-- The colour of axes and ticks. -/
def black : Color := ⟨0, 0, 0⟩

end Color

/-- A rectangle of pixels. It holds the left and top pixels but not the right and
bottom ones. -/
structure Box where
  left : Int
  top : Int
  right : Int
  bottom : Int
  deriving DecidableEq, Repr

namespace Box

/-- The rectangle between two corners, given in any order. -/
def between (first second : Int × Int) : Box :=
  { left := min first.1 second.1
    top := min first.2 second.2
    right := max first.1 second.1
    bottom := max first.2 second.2 }

/-- A line one pixel thick along a row. It ends one pixel after its last point. -/
def horizontalLine (row start finish : Int) : Box := between (start, row) (finish + 1, row + 1)

/-- A line one pixel thick along a column, both ends included. -/
def verticalLine (column start finish : Int) : Box :=
  { left := column
    top := min start finish
    right := column + 1
    bottom := max start finish + 1 }

/-- Whether the rectangle has no pixels. -/
def isEmpty (box : Box) : Bool := box.right ≤ box.left || box.bottom ≤ box.top

/-- Whether the rectangle has pixels in a column. -/
def meetsColumn (box : Box) (column : Int) : Bool := box.left ≤ column && column < box.right

/-- Whether the rectangle has pixels in a row. -/
def meetsRow (box : Box) (row : Int) : Bool := box.top ≤ row && row < box.bottom

/-- The rectangle moved so that a pixel becomes the origin. -/
def relativeTo (box : Box) (column row : Int) : Box :=
  ⟨box.left - column, box.top - row, box.right - column, box.bottom - row⟩

end Box

/-- A rectangle painted in one colour. What is beneath shows through a paint whose
opacity is less than 256. -/
structure Mark where
  box : Box
  color : Color
  opacity : Nat := 256
  deriving DecidableEq, Repr

namespace Mark

/-- One part of a colour, moved toward that of a paint by so many of 256 steps and cut
to a whole number. -/
def mixed (opacity : Nat) (paint beneath : UInt8) : UInt8 :=
  let share (distance : UInt8) := UInt8.ofNat (distance.toNat * min opacity 256 / 256)
  if beneath < paint then beneath + share (paint - beneath) else beneath - share (beneath - paint)

/-- The colour of a pixel after a mark was painted over it. -/
def blend (mark : Mark) (beneath : Color) : Color where
  red := mixed mark.opacity mark.color.red beneath.red
  green := mixed mark.opacity mark.color.green beneath.green
  blue := mixed mark.opacity mark.color.blue beneath.blue

end Mark

/-- A white sheet and the marks painted on it, the first one first. -/
structure Picture where
  width : Nat
  height : Nat
  marks : List Mark
  deriving DecidableEq, Repr

namespace Picture

/-- So many equal pixels, from left to right. -/
abbrev Runs := List (Nat × Color)

/-- The first pixels of a row. -/
def firstPixels : Nat → Runs → Runs
  | _, [] => []
  | count, (length, color) :: rest =>
    if length ≤ count then (length, color) :: firstPixels (count - length) rest
    else [(count, color)]

/-- The pixels of a row after the first ones. -/
def laterPixels : Nat → Runs → Runs
  | _, [] => []
  | count, (length, color) :: rest =>
    if length ≤ count then laterPixels (count - length) rest
    else (length - count, color) :: rest

/-- Join neighbouring runs of one colour and leave out empty ones. -/
def joined (runs : Runs) : Runs :=
  runs.foldr (fun (length, color) rest =>
    if length = 0 then rest
    else
      match rest with
      | (next, sameColor) :: others =>
        if color = sameColor then (length + next, color) :: others else (length, color) :: rest
      | [] => [(length, color)]) []

/-- Paint a mark over a row of a given width. -/
def paint (width : Nat) (runs : Runs) (mark : Mark) : Runs :=
  let start := min mark.box.left.toNat width
  let finish := min mark.box.right.toNat width
  if start < finish then
    let beneath := firstPixels (finish - start) (laterPixels start runs)
    joined (firstPixels start runs ++
      beneath.map (fun (length, color) => (length, mark.blend color)) ++ laterPixels finish runs)
  else runs

/-- A row of pixels. -/
def row (picture : Picture) (index : Int) : Runs :=
  (picture.marks.filter (·.box.meetsRow index)).foldl (paint picture.width)
    (joined [(picture.width, .white)])

/-- The rows at which a band may start, in order: the first row and every edge of
a mark inside the sheet. -/
def bandStarts (picture : Picture) : List Nat :=
  let edges := picture.marks.flatMap fun mark => [mark.box.top.toNat, mark.box.bottom.toNat]
  let inside := (0 :: edges).filter (· < picture.height)
  (inside.mergeSort (· ≤ ·)).eraseReps

/-- Join neighbouring bands of equal rows. -/
def joinBands (bands : List (Nat × Runs)) : List (Nat × Runs) :=
  bands.foldr (fun (count, runs) rest =>
    match rest with
    | (next, sameRuns) :: others =>
      if runs = sameRuns then (count + next, runs) :: others else (count, runs) :: rest
    | [] => [(count, runs)]) []

/-- The picture from top to bottom as bands of equal rows. -/
def bands (picture : Picture) : List (Nat × Runs) :=
  let starts := picture.bandStarts
  let ends := starts.drop 1 ++ [picture.height]
  joinBands ((starts.zip ends).map fun (start, finish) => (finish - start, picture.row start))

/-- The part of a picture between two corners, the second one left out. -/
def crop (picture : Picture) (left top right bottom : Nat) : Picture :=
  { width := min right picture.width - left
    height := min bottom picture.height - top
    marks := picture.marks.map fun mark => { mark with box := mark.box.relativeTo left top } }

end Picture

end BenchFigures
