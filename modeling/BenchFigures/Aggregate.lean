import BenchFigures.Sample

/-!
# Aggregates

An aggregate is a sample with its statistics, computed when the aggregate is
made. It may also carry its speedup over a baseline. A speedup is stored at most
once: a second comparison is refused and leaves the stored number alone.
-/

namespace BenchFigures

/-- A sample, the statistics of its elapsed times, and the speedup once known. -/
structure Aggregate (α : Type) where
  sample : Sample α
  average : α
  minimum : α
  maximum : α
  variance : α
  speedup : Option α

namespace Aggregate

variable {α : Type} [Scalar α]

/-- The aggregate of a sample, with no speedup yet. -/
def ofSample (sample : Sample α) : Aggregate α :=
  { sample
    average := Scalar.mean sample.elapsed
    minimum := Scalar.least sample.elapsed
    maximum := Scalar.greatest sample.elapsed
    variance := Scalar.variance sample.elapsed
    speedup := none }

/-- The number of runs behind an aggregate. -/
def count (aggregate : Aggregate α) : Nat := aggregate.sample.count

/-- The speedup over a baseline: how much longer the baseline takes on average,
relative to the own average. -/
def speedupOver (aggregate baseline : Aggregate α) : α :=
  baseline.average / aggregate.average - Scalar.ofInt 1

/-- Store the speedup over a baseline. This is refused, with the speedup that is stored, if
there is one already. -/
def compare (aggregate baseline : Aggregate α) : Except α (Aggregate α) :=
  match aggregate.speedup with
  | some stored => .error stored
  | none => .ok { aggregate with speedup := some (aggregate.speedupOver baseline) }

/-- A first comparison stores the speedup. -/
theorem compare_of_none {aggregate : Aggregate α} (first : aggregate.speedup = none)
    (baseline : Aggregate α) :
    aggregate.compare baseline =
      .ok { aggregate with speedup := some (aggregate.speedupOver baseline) } := by
  rw [compare, first]

/-- A further comparison is refused. -/
theorem compare_of_some {aggregate : Aggregate α} {stored : α}
    (known : aggregate.speedup = some stored) (baseline : Aggregate α) :
    aggregate.compare baseline = .error stored := by
  rw [compare, known]

/-- The standard deviation of the whole population of runs. -/
def deviation (aggregate : Aggregate Float) : Float := aggregate.variance.sqrt

end Aggregate

end BenchFigures
