import BenchFigures.Chart.Elapsed
import BenchFigures.Chart.Speedup
import BenchFigures.Configuration.Check
import BenchFigures.Summary

/-!
# Generating the figures

A run checks its configuration, loads the results of all levels, registers the
font, draws the three charts and writes the summary. The first failure ends it.
Nothing is written before everything is loaded, and each output is written only
after the ones before it are complete.
-/

namespace BenchFigures

/-- Load the results of every configured level, in the configured order. -/
def loadLevels (configuration : Configuration) : Action (List LevelResults) := do
  let levels ← configuration.levels.mapM fun level =>
    LevelResults.load level (configuration.levelDirectory level)
  Action.report (.loaded (levels.length * Variant.all.length))
  return levels

section

variable [DrawingLibrary]

/-- Draw the charts of elapsed times for both encodings and the chart of speedups. -/
def renderAll (configuration : Configuration) (levels : List LevelResults) (style : Style) :
    Action Unit := do
  let output := configuration.output
  let elapsed (encoding : Encoding) :=
    ElapsedChart.ofLevels levels encoding configuration.elapsedChart
  ((elapsed .register).render output.registerElapsed style).during
    (.rendering output.registerElapsed)
  ((elapsed .stack).render output.stackElapsed style).during (.rendering output.stackElapsed)
  let speedups ← Action.ofExcept id (SpeedupChart.ofLevels levels configuration.speedupChart)
  (speedups.render output.unionSpeedup style).during (.rendering output.unionSpeedup)

end

/-- Write the summary to a file. -/
def writeSummary (levels : List LevelResults) (path : Path) : Action Unit := do
  let content : Content := .plain (Text.encode (Summary.csv levels).toList)
  (Action.orFail .file (Action.writeFile path content)).during (.writing path)
  Action.report (.saved path)

/-- A whole run: check, load, draw, summarize. -/
def generateAll [DrawingLibrary] (configuration : Configuration) :
    Action (List LevelResults) := do
  Action.ofResult configuration.check
  let levels ← loadLevels configuration
  let style ← Style.withFont configuration.font
  renderAll configuration levels style
  Action.report (.summarized (Summary.table levels))
  match configuration.output.summary with
  | some path => writeSummary levels path
  | none => pure ()
  return levels

end BenchFigures
