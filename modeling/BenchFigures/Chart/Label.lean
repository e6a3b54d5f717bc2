import BenchFigures.Number.Binary64

/-!
# Labels of categories

Categories stand at the whole numbers from zero on. A position close enough to one
of them bears its label, all others none.
-/

namespace BenchFigures

/-- How far from a category a position may be to bear its label. -/
def labelTolerance : Float := 1e-6

/-- The label at a position. What is not a number stands for the first category. -/
def categoryLabel (labels : List String) (position : Float) : String :=
  if position.isNaN then labels.headD ""
  else
    match Binary64.round? position with
    | none => ""
    | some nearest =>
      let distance := position - Float.ofInt nearest
      if distance > labelTolerance || distance < -labelTolerance || nearest < 0 then ""
      else labels.getD nearest.toNat ""

end BenchFigures
