import BenchFigures.Configuration
import BenchFigures.Text.Quoted

/-!
# The dump of a configuration

A verbose run first logs its whole configuration in one line: each record by its
name, its fields in order, text between quotes.
-/

namespace BenchFigures

namespace Dump

/-- A record: its name, then its fields between braces. -/
def record (name : String) (fields : List (String × String)) : String :=
  name ++ " \x7b " ++ ", ".intercalate (fields.map fun (field, value) => field ++ ": " ++ value) ++
    " \x7d"

/-- A value that may be absent. -/
def option : Option String → String
  | some value => "Some(" ++ value ++ ")"
  | none => "None"

/-- A path, as quoted text. -/
def path (path : Path) : String := Text.quoted path.text

end Dump

open Dump

/-- The dump of the output files. -/
def OutputFiles.dump (output : OutputFiles) : String :=
  record "OutputConfig"
    [("register_elapsed", path output.registerElapsed),
     ("stack_elapsed", path output.stackElapsed),
     ("union_speedup", path output.unionSpeedup),
     ("summary_csv", option (output.summary.map path))]

/-- The dump of the layout of elapsed times. -/
def ElapsedSettings.dump (settings : ElapsedSettings) : String :=
  record "ElapsedChartConfig"
    [("width", toString settings.width),
     ("height", toString settings.height),
     ("margin", Decimal.dumped settings.margin),
     ("major_step", Decimal.dumped settings.majorStep),
     ("minor_step", Decimal.dumped settings.minorStep)]

/-- The dump of the layout of speedups. -/
def SpeedupSettings.dump (settings : SpeedupSettings) : String :=
  record "SpeedupChartConfig"
    [("width", toString settings.width),
     ("height", toString settings.height),
     ("y_min", Decimal.dumped settings.low),
     ("y_max", Decimal.dumped settings.high),
     ("major_step", Decimal.dumped settings.majorStep),
     ("minor_step", Decimal.dumped settings.minorStep)]

/-- The dump of a configuration. -/
def Configuration.dump (configuration : Configuration) : String :=
  let levels := configuration.levels.map OptimizationLevel.name
  record "GenfigConfig"
    [("data_dir", path configuration.dataDirectory),
     ("toolchain", Text.quoted configuration.toolchain),
     ("levels", "[" ++ ", ".intercalate levels ++ "]"),
     ("font", option (configuration.font.map path)),
     ("output", configuration.output.dump),
     ("elapsed_chart", configuration.elapsedChart.dump),
     ("speedup_chart", configuration.speedupChart.dump)]

end BenchFigures
