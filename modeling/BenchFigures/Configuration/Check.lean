import BenchFigures.Failure

/-!
# Checking configurations

A configuration is usable if it names a level and the settings of both charts are
usable. A failure says which chart it is about.
-/

namespace BenchFigures.Configuration

/-- Check the levels and the settings of both charts, in this order. -/
def check (configuration : Configuration) : Except Failure Unit := do
  if configuration.levels.isEmpty then .error (Cause.settings .noLevel).failure
  configuration.elapsedChart.check.mapError fun fault =>
    (Cause.settings fault).failure.during .checkingElapsedChart
  configuration.speedupChart.check.mapError fun fault =>
    (Cause.settings fault).failure.during .checkingSpeedupChart

end BenchFigures.Configuration
