import BenchFigures.Chart.Label
import BenchFigures.Chart.Panes
import BenchFigures.Chart.Sketch
import BenchFigures.Chart.Style
import BenchFigures.Decimal.Notation

/-!
# The common parts of charts

Both kinds of charts place categories at the whole numbers of the horizontal axis,
half a unit of room at each side. A plain chart leaves a margin on all sides and
draws two axis lines; a labelled one leaves more room at the left and below, where
it draws the axes with their ticks and labels. The grid lies under the bars, the bars
are drawn series by series, and over them a labelled chart has a legend.

What is written, how large, in which strip, in which order and with which ticks is
defined here. Which pixels a text or the legend colours is up to the library, and so is
which points are labelled. A text or a legend that it does not draw ends the drawing.
-/

namespace BenchFigures.Plot

/-- The margin around every chart. -/
def margin : Int := 20

/-- The room for the labels of the horizontal axis. -/
def labelsBelow : Int := 40

/-- The room for the labels of the vertical axis. -/
def labelsAtLeft : Int := 70

/-- The colours of bars, from the lightest to the darkest. -/
def lighterGray : Color := ⟨204, 204, 204⟩

/-- The second lightest colour of bars. -/
def lightGray : Color := ⟨179, 179, 179⟩

/-- The second darkest colour of bars. -/
def gray : Color := ⟨128, 128, 128⟩

/-- The darkest colour of bars. -/
def darkGray : Color := ⟨77, 77, 77⟩

/-- The horizontal range for so many categories. -/
def categories (count : Nat) : Range := ⟨-0.5, Float.ofNat count - 0.5⟩

/-- The panes of a chart of a given size. -/
def panes (style : Style) (width height : Nat) : Panes :=
  if style.labelled then Panes.ofSheet width height margin labelsAtLeft labelsBelow
  else Panes.ofSheet width height margin 0 0

/-- The length of a tick: a twentieth of the shorter side of the area, a half
rounded up, but never more than five pixels. -/
def tickLength (area : Box) : Int :=
  min 5 ((min (area.right - area.left) (area.bottom - area.top) + 10) / 20)

/-- What the labels of a chart say: the names of its categories, how many labels the
vertical axis may have and to how many places its numbers are written, and what it shows. -/
structure Labels where
  columns : List String
  rowCount : Nat
  places : Nat
  description : String

/-- The size of labels and of the names in the legend. -/
def labelSize : Nat := 14

/-- The size of the text that says what an axis shows. -/
def descriptionSize : Nat := 16

/-- A label of an axis: its text and the pixel of its point. -/
structure AxisLabel where
  pixel : Int
  text : String

section

variable [DrawingLibrary] (typeface : Typeface)

/-- A text, as far as the library writes it. -/
def written (inscription : Inscription) : Sketch :=
  .ofLibrary (DrawingLibrary.write typeface inscription)

/-- One side of the axes, in its strip if there is one: a line, the labels, each one before its
tick, and what the axis shows. -/
def side (strip line : Box) (labels : List AxisLabel) (tick : Int → List Box)
    (description : Option String) : Sketch :=
  if strip.isEmpty then .blank
  else
    let marked := labels.flatMap fun label =>
      [written typeface ⟨label.text, labelSize, strip, some label.pixel⟩,
       Sketch.boxes .black (tick label.pixel)]
    let described := description.toList.map fun text =>
      written typeface ⟨text, descriptionSize, strip, none⟩
    Sketch.inOrder (Sketch.boxes .black [line] :: marked ++ described)

/-- The axes of a labelled chart, in the strips around its area, with labels at the points
that the library finds. Points whose pixels are outside the area have no label. -/
def labelledAxes (panes : Panes) (frame : Frame) (labels : Labels) : Sketch :=
  match DrawingLibrary.points? frame.horizontal labels.columns.length,
    DrawingLibrary.points? frame.vertical labels.rowCount with
  | some columnPoints, some rowPoints =>
    let area := panes.area
    let length := tickLength area
    let columns := (columnPoints.map fun point =>
      AxisLabel.mk (frame.freeColumn point) (categoryLabel labels.columns point)).filter
        (area.meetsColumn ·.pixel)
    let rows := (rowPoints.map fun point =>
      AxisLabel.mk (frame.freeRow point) (Decimal.fixed labels.places point)).filter
        (area.meetsRow ·.pixel)
    let across (strip : Box) (row finish : Int) : Sketch :=
      side typeface strip (Box.horizontalLine row area.left (area.right - 1)) columns
        (fun column => if length = 0 then [] else [Box.verticalLine column row finish]) none
    let upwards (strip : Box) (column start finish : Int) : Sketch :=
      side typeface strip (Box.verticalLine column area.top (area.bottom - 1)) rows
        (fun row => if length = 0 then [] else [Box.horizontalLine row start finish])
        (some labels.description)
    Sketch.inOrder
      [across panes.above (area.top - 1) (area.top - 1 - length),
       upwards panes.left (area.left - 1) (area.left - 1 - length) (area.left - 1),
       across panes.below area.bottom (area.bottom + length),
       upwards panes.right area.right area.right (area.right + length)]
  | _, _ => .stopped .endlessSearch

end

/-- One series of bars: its name in the legend, if it has one, its colour, where its bars
stand relative to their category, and the values. -/
structure Series where
  name : Option String
  color : Color
  offset : Float
  values : List Float

/-- The bars of a series, one for each category. -/
def Series.sketch (series : Series) (frame : Frame) : Sketch :=
  Sketch.inOrder ((series.values.zipIdx).map fun (value, category) =>
    Sketch.bar frame (Float.ofNat category + series.offset) value series.color)

/-- The mark that shows the colour of a series in the legend, at a position. -/
def legendMark (color : Color) (column row : Int) : (Int × Int) × (Int × Int) × Color :=
  ((column, row - 5), (column + 10, row + 5), color)

/-- The line of a series in the legend, if it has a name. -/
def Series.legendLine? (series : Series) : Option LegendEntry :=
  series.name.map fun name =>
    { name
      mark := fun column row =>
        let (start, finish, color) := legendMark series.color column row
        { box := Box.between start finish, color } }

section

variable [DrawingLibrary] (style : Style) (typeface : Typeface)

/-- The legend of a labelled chart: four fifths of white with a black border. -/
def legend (area : Box) (series : List Series) : Sketch :=
  if style.labelled then
    .ofLibrary (DrawingLibrary.explain typeface
      { area
        background := .white
        opacity := 204
        border := .black
        size := labelSize
        entries := series.filterMap (·.legendLine?) })
  else .blank

/-- What is under the bars: the grid and the axes. Labelled axes come before the grid, plain
ones after it. -/
def lines (panes : Panes) (frame : Frame) (labels : Labels) (major minor : Float) : Sketch :=
  let grid := Sketch.grid frame major minor
  if style.labelled then (labelledAxes typeface panes frame labels).andThen grid
  else grid.andThen (Sketch.axes frame)

/-- A whole chart: axes and grid, the bars of each series, and the legend. -/
def chart (panes : Panes) (vertical : Range) (labels : Labels) (major minor : Float)
    (series : List Series) : Sketch :=
  let frame : Frame := ⟨panes.area, categories labels.columns.length, vertical⟩
  Sketch.inOrder (lines style typeface panes frame labels major minor ::
    series.map (·.sketch frame) ++ [legend style typeface panes.area series])

end

end BenchFigures.Plot
