import BenchFigures.Chart.Plot
import BenchFigures.Chart.Saving
import BenchFigures.Results.Level

/-!
# The chart of speedups

Each level is a category with two bars: the speedup of union over bitmask decoding
for register encoding left of its tick and for stack encoding right of it. The
vertical range is configured, and bars that leave it are cut.
-/

namespace BenchFigures

/-- The two speedups shown for one category. -/
structure SpeedupGroup where
  label : String
  register : Float
  stack : Float

/-- The chart of speedups. -/
structure SpeedupChart where
  groups : List SpeedupGroup
  settings : SpeedupSettings

namespace SpeedupChart

/-- The speedup of an aggregate of a level, which must have been stored. A complaint names the
encoding. -/
def speedup (aggregate : Aggregate Float) (level : OptimizationLevel) (encoding : Encoding) :
    Except Cause Float :=
  match aggregate.speedup with
  | some speedup => .ok speedup
  | none => .error (.notCompared encoding level)

/-- The category of a level. -/
def group (results : LevelResults) : Except Cause SpeedupGroup := do
  let register ← speedup results.aggregates.unionRegister results.level .register
  let stack ← speedup results.aggregates.unionStack results.level .stack
  return { label := results.level.flag, register, stack }

/-- The chart with a category for each level. -/
def ofLevels (levels : List LevelResults) (settings : SpeedupSettings) :
    Except Cause SpeedupChart := do
  let groups ← levels.mapM group
  return { groups, settings }

/-- How many labels the vertical axis may have: one more than the steps of the
range, rounded, in 64 bits. As for elapsed times, one more than the most that 64 bits hold
is none, as without overflow checks. -/
def labelCount (range : Range) (step : Float) : Nat :=
  (Binary64.toUnsigned64 Binary64.nearest ((range.high - range.low) / step) + 1) % Nat.pow 2 64

/-- The bars, series by series. -/
def series (chart : SpeedupChart) : List Plot.Series :=
  [⟨some "Register", Plot.gray, -Bar.width, chart.groups.map (·.register)⟩,
   ⟨some "Stack", Plot.darkGray, 0.0, chart.groups.map (·.stack)⟩]

/-- What the labels of the chart say in a range. -/
def labels (chart : SpeedupChart) (range : Range) : Plot.Labels where
  columns := chart.groups.map (·.label)
  rowCount := labelCount range chart.settings.majorStep
  places := 2
  description := "Speedup"

section

variable [DrawingLibrary]

/-- The drawing of the chart, with a font for its labels. An empty chart and unusable
settings are refused before anything is drawn. -/
def sketch (chart : SpeedupChart) (style : Style) (typeface : Typeface) : Except Cause Sketch := do
  if chart.groups.isEmpty then .error .noSpeedupToPlot
  chart.settings.check.mapError Cause.settings
  let range : Range := ⟨chart.settings.low, chart.settings.high⟩
  let panes := Plot.panes style chart.settings.width chart.settings.height
  return Plot.chart style typeface panes range (chart.labels range) chart.settings.majorStep
    chart.settings.minorStep chart.series

/-- Draw the chart with a font and save it. -/
def renderWith (chart : SpeedupChart) (typeface : Typeface) (path : Path) (style : Style) :
    Action Unit := do
  let sketch ← Action.ofExcept id (chart.sketch style typeface)
  sketch.save chart.settings.width chart.settings.height path

/-- Draw the chart with the registered font and save it. -/
def render (chart : SpeedupChart) (path : Path) (style : Style) : Action Unit := do
  chart.renderWith (← get).typeface path style

end

end SpeedupChart

end BenchFigures
