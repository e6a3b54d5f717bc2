import BenchFigures.Decimal.Notation
import BenchFigures.Files.Path
import BenchFigures.OptimizationLevel

/-!
# Configurations

A configuration says where results are found, which levels are shown and in which
order, which files are written and how the charts are laid out. Every field has a
default. Sizes and steps are checked before anything is loaded or drawn.
-/

namespace BenchFigures

/-- The files a run writes. The summary is optional. -/
structure OutputFiles where
  registerElapsed : Path := ⟨"out/register_elapsed.png"⟩
  stackElapsed : Path := ⟨"out/stack_elapsed.png"⟩
  unionSpeedup : Path := ⟨"out/union_speedup.png"⟩
  summary : Option Path := none
  deriving DecidableEq, Repr

/-- The layout of the two charts of elapsed times. The margin is kept above and
below the averages that anchor the vertical axis. -/
structure ElapsedSettings where
  width : Nat := 900
  height : Nat := 500
  margin : Float := 50.0
  majorStep : Float := 50.0
  minorStep : Float := 12.5

/-- The layout of the chart of speedups. -/
structure SpeedupSettings where
  width : Nat := 700
  height : Nat := 500
  low : Float := -0.04
  high : Float := 0.04
  majorStep : Float := 0.01
  minorStep : Float := 0.005

/-- Everything a run can be told. -/
structure Configuration where
  dataDirectory : Path := ⟨"./data"⟩
  toolchain : String := "GCC"
  levels : List OptimizationLevel := [.O0, .O1, .O3]
  /-- The font of chart labels; without one, known places are searched. -/
  font : Option Path := none
  output : OutputFiles := {}
  elapsedChart : ElapsedSettings := {}
  speedupChart : SpeedupSettings := {}

/-- What makes settings unusable. -/
inductive SettingsFault where
  | noLevel
  | emptyImage (width height : Nat)
  | badMargin (margin : Float)
  | badStep (name : String) (step : Float)
  | emptyRange (low high : Float)

namespace SettingsFault

/-- The text of a fault. -/
def message : SettingsFault → String
  | noLevel => "no optimization level configured"
  | emptyImage width height => s!"empty image size {width}x{height}"
  | badMargin margin => "margin must be a non negative number, got " ++ Decimal.plain margin
  | badStep name step => s!"{name} must be a positive number, got " ++ Decimal.plain step
  | emptyRange low high =>
    "empty speedup range [" ++ Decimal.plain low ++ ", " ++ Decimal.plain high ++ "]"

end SettingsFault

namespace Configuration

/-- An image must have a pixel. -/
def checkSize (width height : Nat) : Except SettingsFault Unit :=
  if width = 0 ∨ height = 0 then .error (.emptyImage width height) else .ok ()

/-- A grid step must be positive and finite. -/
def checkStep (name : String) (step : Float) : Except SettingsFault Unit :=
  if !Binary64.isFinite step || step ≤ 0.0 then .error (.badStep name step) else .ok ()

/-- The directory with the results of a level. -/
def levelDirectory (configuration : Configuration) (level : OptimizationLevel) : Path :=
  (configuration.dataDirectory.join ⟨configuration.toolchain⟩).join ⟨level.name⟩

end Configuration

open BenchFigures.Configuration

/-- Check size, margin and steps, in this order. -/
def ElapsedSettings.check (settings : ElapsedSettings) : Except SettingsFault Unit := do
  checkSize settings.width settings.height
  if !Binary64.isFinite settings.margin || settings.margin < 0.0 then
    .error (.badMargin settings.margin)
  checkStep "major_step" settings.majorStep
  checkStep "minor_step" settings.minorStep

/-- Check size, range and steps, in this order. -/
def SpeedupSettings.check (settings : SpeedupSettings) : Except SettingsFault Unit := do
  checkSize settings.width settings.height
  if !(Binary64.isFinite settings.low && Binary64.isFinite settings.high &&
      settings.low < settings.high) then
    .error (.emptyRange settings.low settings.high)
  checkStep "major_step" settings.majorStep
  checkStep "minor_step" settings.minorStep

end BenchFigures
