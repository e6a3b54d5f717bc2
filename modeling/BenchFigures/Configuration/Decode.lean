import BenchFigures.Configuration

/-!
# Decoding configurations

A configuration can be written in several formats that agree on its fields and
differ in what their values look like. A dialect says how one format shows texts,
numbers, lists and records; decoding is the same for all of them. A field that is
not given keeps its default, a field given twice is refused, and fields that a
configuration does not know are passed over.
-/

namespace BenchFigures

/-- How a document format shows the values of a configuration. -/
structure Dialect (ν : Type) where
  /-- A text. -/
  string? : ν → Option String
  /-- A text that may be absent. -/
  optionalString? : ν → Option (Option String)
  /-- A binary64 number. -/
  float? : ν → Option Float
  /-- A number of 32 bits without a sign. -/
  size? : ν → Option Nat
  /-- An optimization level. -/
  level? : ν → Option OptimizationLevel
  /-- The items of a list. -/
  items? : ν → Option (List ν)
  /-- The members of a record that have one of the given names. -/
  members? : List String → ν → Option (List (String × ν))

namespace Dialect

variable {ν α : Type}

/-- The members of a record, none of them given twice. -/
def record? (dialect : Dialect ν) (names : List String) (value : ν) :
    Option (List (String × ν)) := do
  let members ← dialect.members? names value
  if (members.map Prod.fst).Nodup then some members else none

/-- A field of a record: its default if it is not given. -/
def field (members : List (String × ν)) (name : String) (standard : α) (read : ν → Option α) :
    Option α :=
  match members.lookup name with
  | some value => read value
  | none => some standard

/-- A path is a text. -/
def path? (dialect : Dialect ν) (value : ν) : Option Path := (dialect.string? value).map Path.mk

/-- A path that may be absent. -/
def optionalPath? (dialect : Dialect ν) (value : ν) : Option (Option Path) :=
  (dialect.optionalString? value).map fun text => text.map Path.mk

/-- A list of levels. -/
def levels? (dialect : Dialect ν) (value : ν) : Option (List OptimizationLevel) := do
  (← dialect.items? value).mapM dialect.level?

/-- The fields of the output files, in order. -/
def outputNames : List String :=
  ["register_elapsed", "stack_elapsed", "union_speedup", "summary_csv"]

/-- The output files. -/
def outputFiles? (dialect : Dialect ν) (value : ν) : Option OutputFiles := do
  let members ← dialect.record? outputNames value
  let standard : OutputFiles := {}
  return {
    registerElapsed := ← field members "register_elapsed" standard.registerElapsed dialect.path?
    stackElapsed := ← field members "stack_elapsed" standard.stackElapsed dialect.path?
    unionSpeedup := ← field members "union_speedup" standard.unionSpeedup dialect.path?
    summary := ← field members "summary_csv" standard.summary dialect.optionalPath? }

/-- The fields of the layout of elapsed times, in order. -/
def elapsedNames : List String := ["width", "height", "margin", "major_step", "minor_step"]

/-- The layout of elapsed times. -/
def elapsedSettings? (dialect : Dialect ν) (value : ν) : Option ElapsedSettings := do
  let members ← dialect.record? elapsedNames value
  let standard : ElapsedSettings := {}
  return {
    width := ← field members "width" standard.width dialect.size?
    height := ← field members "height" standard.height dialect.size?
    margin := ← field members "margin" standard.margin dialect.float?
    majorStep := ← field members "major_step" standard.majorStep dialect.float?
    minorStep := ← field members "minor_step" standard.minorStep dialect.float? }

/-- The fields of the layout of speedups, in order. -/
def speedupNames : List String :=
  ["width", "height", "y_min", "y_max", "major_step", "minor_step"]

/-- The layout of speedups. -/
def speedupSettings? (dialect : Dialect ν) (value : ν) : Option SpeedupSettings := do
  let members ← dialect.record? speedupNames value
  let standard : SpeedupSettings := {}
  return {
    width := ← field members "width" standard.width dialect.size?
    height := ← field members "height" standard.height dialect.size?
    low := ← field members "y_min" standard.low dialect.float?
    high := ← field members "y_max" standard.high dialect.float?
    majorStep := ← field members "major_step" standard.majorStep dialect.float?
    minorStep := ← field members "minor_step" standard.minorStep dialect.float? }

/-- The fields of a configuration, in order. -/
def configurationNames : List String :=
  ["data_dir", "toolchain", "levels", "font", "output", "elapsed_chart", "speedup_chart"]

/-- A configuration. -/
def configuration? (dialect : Dialect ν) (value : ν) : Option Configuration := do
  let members ← dialect.record? configurationNames value
  let standard : Configuration := {}
  return {
    dataDirectory := ← field members "data_dir" standard.dataDirectory dialect.path?
    toolchain := ← field members "toolchain" standard.toolchain dialect.string?
    levels := ← field members "levels" standard.levels dialect.levels?
    font := ← field members "font" standard.font dialect.optionalPath?
    output := ← field members "output" standard.output dialect.outputFiles?
    elapsedChart := ← field members "elapsed_chart" standard.elapsedChart dialect.elapsedSettings?
    speedupChart := ←
      field members "speedup_chart" standard.speedupChart dialect.speedupSettings? }

end Dialect

end BenchFigures
