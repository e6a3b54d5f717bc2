import BenchFigures.Chart.Bar
import BenchFigures.Chart.Library
import BenchFigures.Failure

/-!
# Sketches

A chart is drawn from parts, one after the other. A part that cannot be drawn ends
the drawing; what was drawn before it remains. A sketch keeps both: the marks made
and the cause that ended the drawing, if any.
-/

namespace BenchFigures

/-- The marks of a drawing and why it stopped early, if it did. -/
structure Sketch where
  marks : List Mark
  failure : Option Cause

namespace Sketch

/-- Nothing drawn. -/
def blank : Sketch := ⟨[], none⟩

/-- Marks made in order. -/
def ofMarks (marks : List Mark) : Sketch := ⟨marks, none⟩

/-- Nothing drawn, and why. -/
def stopped (cause : Cause) : Sketch := ⟨[], some cause⟩

/-- Draw one part, then another unless the first one stopped. -/
def andThen (first second : Sketch) : Sketch :=
  match first.failure with
  | some _ => first
  | none => ⟨first.marks ++ second.marks, second.failure⟩

/-- Draw parts in order until one stops. -/
def inOrder (parts : List Sketch) : Sketch := parts.foldr andThen blank

/-- Equally coloured boxes. -/
def boxes (color : Color) (boxes : List Box) : Sketch :=
  ofMarks (boxes.map fun box => { box, color })

/-- What the library drew, as a part. -/
def ofLibrary (drawn : Drawn) : Sketch :=
  ⟨drawn.marks, drawn.fault.map fun account => .drawing (.lettering account)⟩

/-- The colour of the lines of the minor step. -/
def minorGridColor : Color := ⟨230, 230, 230⟩

/-- The colour of the lines of the major step. -/
def majorGridColor : Color := ⟨176, 176, 176⟩

/-- The gridlines of one step across a frame. -/
def gridlines (frame : Frame) (step : Float) (color : Color) : Sketch :=
  let low := frame.vertical.low
  let high := frame.vertical.high
  match Grid.lines low high step with
  | .ok heights => boxes color (heights.map frame.across)
  | .error fault => stopped (fault.cause low high step)

/-- Both grids, the major one over the minor one. -/
def grid (frame : Frame) (major minor : Float) : Sketch :=
  (gridlines frame minor minorGridColor).andThen (gridlines frame major majorGridColor)

/-- The lines along the bottom and the left side. -/
def axes (frame : Frame) : Sketch :=
  boxes .black [frame.across frame.vertical.low, frame.leftSide]

/-- A bar, as far as it lies in the frame's range. -/
def bar (frame : Frame) (left value : Float) (color : Color) : Sketch :=
  match Bar.clipped? left value frame.vertical.low frame.vertical.high color with
  | some shape =>
    boxes shape.color [frame.rectangle shape.left shape.base shape.right shape.top]
  | none => stopped .emptyRange

end Sketch

end BenchFigures
