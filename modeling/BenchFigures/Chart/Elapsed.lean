import BenchFigures.Chart.Plot
import BenchFigures.Chart.Saving
import BenchFigures.Results.Level

/-!
# Charts of elapsed times

For one encoding, each level is a category with two bars: bitmask left of its
tick, union right of it. A light bar shows the average and a darker one over it the
minimum.

The vertical range reaches from the union average of the last category to that of
the first, with a margin on both sides, as levels are expected to get faster. If
that leaves nothing, the range covers all minima and averages.
-/

namespace BenchFigures

/-- The two aggregates shown for one category. -/
structure ElapsedGroup (α : Type) where
  label : String
  bitmask : Aggregate α
  union : Aggregate α

namespace ElapsedGroup

variable {α : Type} [Scalar α]

/-- The range between the averages that anchor it. -/
def anchored (first last : ElapsedGroup α) (margin : α) : α × α :=
  (last.union.average - margin, first.union.average + margin)

/-- The range of all minima and averages. -/
def covering (groups : List (ElapsedGroup α)) (margin : α) : α × α :=
  let aggregates := groups.flatMap fun group => [group.bitmask, group.union]
  (Scalar.least (aggregates.map Aggregate.minimum) - margin,
    Scalar.greatest (aggregates.map Aggregate.average) + margin)

/-- The vertical range of a chart, if there is any category. -/
def range? (groups : List (ElapsedGroup α)) (margin : α) : Option (α × α) :=
  match groups.head?, groups.getLast? with
  | some first, some last =>
    let (bottom, top) := anchored first last margin
    some (if Scalar.lt bottom top then (bottom, top) else covering groups margin)
  | _, _ => none

end ElapsedGroup

/-- A chart of elapsed times. -/
structure ElapsedChart where
  groups : List (ElapsedGroup Float)
  settings : ElapsedSettings

namespace ElapsedChart

/-- The chart of one encoding, with a category for each level. -/
def ofLevels (levels : List LevelResults) (encoding : Encoding) (settings : ElapsedSettings) :
    ElapsedChart :=
  { groups := levels.map fun results =>
      { label := results.level.flag
        bitmask := results.get ⟨.bitmask, encoding⟩
        union := results.get ⟨.union, encoding⟩ }
    settings }

/-- The vertical range of the chart. -/
def range (chart : ElapsedChart) : Except Cause Range :=
  match ElapsedGroup.range? chart.groups chart.settings.margin with
  | some (low, high) => .ok ⟨low, high⟩
  | none => .error .nothingToPlot

/-- How many labels the vertical axis may have: one more than the whole steps of
the range, in 64 bits. One more than the most that 64 bits hold is none, as in a program
that is built without overflow checks; with them it would stop there. -/
def labelCount (range : Range) (step : Float) : Nat :=
  (Binary64.toUnsigned64 Binary64.integerPart ((range.high - range.low) / step) + 1) % Nat.pow 2 64

/-- The bars, series by series. -/
def series (chart : ElapsedChart) : List Plot.Series :=
  let values (value : ElapsedGroup Float → Float) := chart.groups.map value
  [⟨none, Plot.lighterGray, -Bar.width, values (·.bitmask.average)⟩,
   ⟨some "Bitmasking", Plot.gray, -Bar.width, values (·.bitmask.minimum)⟩,
   ⟨none, Plot.lightGray, 0.0, values (·.union.average)⟩,
   ⟨some "Union", Plot.darkGray, 0.0, values (·.union.minimum)⟩]

/-- What the labels of the chart say in a range. -/
def labels (chart : ElapsedChart) (range : Range) : Plot.Labels where
  columns := chart.groups.map (·.label)
  rowCount := labelCount range chart.settings.majorStep
  places := 0
  description := "Elapsed Time (ms)"

section

variable [DrawingLibrary]

/-- The drawing of the chart, with a font for its labels. Unusable settings and an empty
chart are refused before anything is drawn. -/
def sketch (chart : ElapsedChart) (style : Style) (typeface : Typeface) : Except Cause Sketch := do
  chart.settings.check.mapError Cause.settings
  let range ← chart.range
  let panes := Plot.panes style chart.settings.width chart.settings.height
  return Plot.chart style typeface panes range (chart.labels range) chart.settings.majorStep
    chart.settings.minorStep chart.series

/-- Draw the chart with a font and save it. -/
def renderWith (chart : ElapsedChart) (typeface : Typeface) (path : Path) (style : Style) :
    Action Unit := do
  let sketch ← Action.ofExcept id (chart.sketch style typeface)
  sketch.save chart.settings.width chart.settings.height path

/-- Draw the chart with the registered font and save it. -/
def render (chart : ElapsedChart) (path : Path) (style : Style) : Action Unit := do
  chart.renderWith (← get).typeface path style

end

end ElapsedChart

end BenchFigures
