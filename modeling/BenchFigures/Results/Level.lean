import BenchFigures.Aggregate
import BenchFigures.Results.Directory
import BenchFigures.Results.File

/-!
# Results of a level

One optimization level has four aggregates, one for each variant. The union
variants carry their speedup over the bitmask variant with the same encoding.
-/

namespace BenchFigures

/-- Store the speedup of an aggregate over a baseline. Different numbers of runs
are reported but do not prevent the comparison. -/
def Aggregate.compareWith (aggregate baseline : Aggregate Float) : Action (Aggregate Float) := do
  let compared ← Action.ofExcept .alreadyCompared (aggregate.compare baseline)
  if baseline.count ≠ aggregate.count then
    Action.report (.runCountsDiffer aggregate.count baseline.count)
  return compared

/-- The aggregates of the four variants at one level. -/
structure LevelResults where
  level : OptimizationLevel
  aggregates : PerVariant (Aggregate Float)

namespace LevelResults

/-- The results of a level from its aggregates: each union variant is compared
with the bitmask variant of its encoding. -/
def ofAggregates (level : OptimizationLevel) (aggregates : PerVariant (Aggregate Float)) :
    Action LevelResults := do
  let unionRegister ← aggregates.unionRegister.compareWith aggregates.bitmaskRegister
  let unionStack ← aggregates.unionStack.compareWith aggregates.bitmaskStack
  return { level, aggregates := { aggregates with unionRegister, unionStack } }

/-- The aggregate of a variant. -/
def get (results : LevelResults) (variant : Variant) : Aggregate Float :=
  results.aggregates.get variant

/-- The aggregate of a union variant is the field of its name. -/
theorem unionRegister_eq_get (results : LevelResults) :
    results.aggregates.unionRegister = results.get ⟨.union, .register⟩ := rfl

theorem unionStack_eq_get (results : LevelResults) :
    results.aggregates.unionStack = results.get ⟨.union, .stack⟩ := rfl

/-- Load the results of a level: find all files, then read them, then compare. -/
def load (level : OptimizationLevel) (directory : Path) : Action LevelResults := do
  let files ← (ResultDirectory.discover directory).during (.findingResults level)
  let aggregates ← PerVariant.forEach fun variant => do
    let sample ← (ResultFile.read (files.get variant)).during (.loading level variant)
    return Aggregate.ofSample sample
  let results ← ofAggregates level aggregates
  let shown (aggregate : Aggregate Float) : Float := aggregate.speedup.getD 0.0
  Action.report (.unionSpeedup level (shown results.aggregates.unionRegister)
    (shown results.aggregates.unionStack))
  return results

end LevelResults

end BenchFigures
