import BenchFigures.Number.Scalar

/-!
# Samples of a benchmark

A sample holds the measurements of one benchmark, one for each run. It is never
empty, so averages of it are averages of something. Measurements arrive as three
columns, which must have the same length.
-/

namespace BenchFigures

/-- One measured run: its index, the elapsed time in milliseconds and the mean
deviation that the measuring tool reported. -/
structure Run (α : Type) where
  index : Int
  elapsed : α
  meanDeviation : α
  deriving DecidableEq, Repr

/-- The runs of one benchmark, at least one. -/
structure Sample (α : Type) where
  runs : List (Run α)
  runs_ne_nil : runs ≠ []

/-- Why three columns are no sample. -/
inductive SampleFault where
  /-- There is no elapsed time. -/
  | noRun
  /-- The columns have these different lengths. -/
  | unevenColumns (indexes elapsed meanDeviations : Nat)
  deriving DecidableEq, Repr

namespace Sample

variable {α : Type}

/-- A sample of a list of runs, if there is any. -/
def ofRuns (runs : List (Run α)) : Except SampleFault (Sample α) :=
  if filled : runs ≠ [] then .ok ⟨runs, filled⟩ else .error .noRun

/-- The runs that three columns describe row by row. -/
def rows (indexes : List Int) (elapsed meanDeviations : List α) : List (Run α) :=
  (indexes.zip (elapsed.zip meanDeviations)).map fun (index, time, deviation) =>
    ⟨index, time, deviation⟩

/-- A sample of three columns. Without an elapsed time there is no run, whatever
the other columns hold. -/
def ofColumns (indexes : List Int) (elapsed meanDeviations : List α) :
    Except SampleFault (Sample α) :=
  if elapsed.isEmpty then .error .noRun
  else if indexes.length ≠ elapsed.length ∨ meanDeviations.length ≠ elapsed.length then
    .error (.unevenColumns indexes.length elapsed.length meanDeviations.length)
  else ofRuns (rows indexes elapsed meanDeviations)

/-- How many runs there are. -/
def count (sample : Sample α) : Nat := sample.runs.length

/-- The column of run indexes. -/
def indexes (sample : Sample α) : List Int := sample.runs.map Run.index

/-- The column of elapsed times. -/
def elapsed (sample : Sample α) : List α := sample.runs.map Run.elapsed

/-- The column of mean deviations. -/
def meanDeviations (sample : Sample α) : List α := sample.runs.map Run.meanDeviation

end Sample

end BenchFigures
