import BenchFigures.Aggregate
import BenchFigures.Event

/-!
# Named aggregates

A bench keeps aggregates under names. They are built from columns of measurements,
copied, and compared with each other. Only a successful build, copy or comparison
changes the bench, and each changes one name only. A copy has a life of its own: a
comparison of one is none of the other.
-/

namespace BenchFigures

/-- Aggregates under names, no name twice in effect: the first one counts. -/
structure Bench (α : Type) where
  aggregates : List (String × Aggregate α)

namespace Bench

variable {α : Type} [Scalar α]

/-- What can be done at a bench. -/
inductive Step (α : Type) where
  /-- Build an aggregate from three columns. -/
  | build (name : String) (indexes : List Int) (elapsed meanDeviations : List α)
  /-- Compare an aggregate with a baseline, which may be itself. -/
  | compare (name baseline : String)
  /-- Copy an aggregate to another name. -/
  | copy (name target : String)

/-- What came of a step. -/
inductive Outcome (α : Type) where
  | built (aggregate : Aggregate α)
  | invalid (fault : SampleFault)
  /-- The speedup that was stored, and the counts of own and baseline runs. -/
  | compared (speedup : α) (own baseline : Nat)
  /-- A speedup was stored already. -/
  | refused (stored : α)
  | copied
  /-- There is no aggregate of this name. -/
  | unknown (name : String)

/-- What is reported of a step: different numbers of runs in a comparison. -/
def Outcome.events : Outcome α → List Event
  | .compared _ own baseline => if baseline ≠ own then [.runCountsDiffer own baseline] else []
  | .built _ | .invalid _ | .refused _ | .copied | .unknown _ => []

/-- The bench with nothing on it. -/
def empty : Bench α := ⟨[]⟩

/-- The aggregate of a name. -/
def get? (bench : Bench α) (name : String) : Option (Aggregate α) := bench.aggregates.lookup name

/-- Keep an aggregate under a name, in place of what was there. -/
def put (bench : Bench α) (name : String) (aggregate : Aggregate α) : Bench α :=
  ⟨(name, aggregate) :: bench.aggregates⟩

/-- Take a step: the bench after it and what came of it. -/
def take (bench : Bench α) : Step α → Bench α × Outcome α
  | .build name indexes elapsed meanDeviations =>
    match Sample.ofColumns indexes elapsed meanDeviations with
    | .error fault => (bench, .invalid fault)
    | .ok sample =>
      let aggregate := Aggregate.ofSample sample
      (bench.put name aggregate, .built aggregate)
  | .compare name baselineName =>
    match bench.get? name, bench.get? baselineName with
    | some aggregate, some baseline =>
      match aggregate.compare baseline with
      | .error stored => (bench, .refused stored)
      | .ok compared =>
        (bench.put name compared,
          .compared (aggregate.speedupOver baseline) aggregate.count baseline.count)
    | none, _ => (bench, .unknown name)
    | some _, none => (bench, .unknown baselineName)
  | .copy name target =>
    match bench.get? name with
    | some aggregate => (bench.put target aggregate, .copied)
    | none => (bench, .unknown name)

omit [Scalar α] in
/-- What is under a name after something was put there, or elsewhere. -/
theorem get?_put (bench : Bench α) (name other : String) (aggregate : Aggregate α) :
    (bench.put name aggregate).get? other =
      if other = name then some aggregate else bench.get? other := by
  by_cases same : other = name
  · simp [get?, put, same]
  · have differs : (other == name) = false := by simpa using same
    simp [get?, put, List.lookup_cons, differs, same]

end Bench

end BenchFigures
