import BenchFigures.Number.Binary64

/-!
# Ticks

The labelled points of an axis are round numbers in its range, no more than asked
for. The distance between them starts at a power of ten and is divided by two,
five and ten as long as the points do not become too many. Points are counted from
a base that is a multiple of a finer grain, so that adding many distances does not
drift.

The search goes on while the distance becomes smaller, and the points while they become
greater. A distance that division does not make smaller is infinite, zero, or no number. It
stays what it is, however often it is divided, and its points never become too many: such a
search does not end, and has no points.
-/

namespace BenchFigures.Ticks

/-- Differences below this are taken for none. -/
def negligible : Float := 2.220446049250313e-16

/-- The place of a number among all numbers, in their order. What is no number comes last. -/
def place (number : Float) : Nat :=
  let size := number.abs.toBits.toNat
  if number < 0.0 then Nat.pow 2 63 - size else Nat.pow 2 63 + size

/-- There are not more places than this. -/
theorem place_lt (number : Float) : place number < Nat.pow 2 65 := by
  have size : number.abs.toBits.toNat < Nat.pow 2 64 := number.abs.toBits.toNat_lt
  have half : Nat.pow 2 64 = 2 * Nat.pow 2 63 := rfl
  have twice : Nat.pow 2 65 = 2 * Nat.pow 2 64 := rfl
  rw [place]
  split <;> omega

/-- What is left of a number after the greatest multiple of a positive distance
below it. What is almost a whole distance counts as nothing. -/
def remainder (number distance : Float) : Float :=
  let rest := number - Binary64.floor (number / distance) * distance
  if (rest - distance).abs < negligible then 0.0 else rest

/-- The least multiple of a distance in a range from `low`. -/
def firstPoint (low distance : Float) : Float :=
  let below := low - remainder low distance
  if below < low then below + distance else below

/-- The greatest multiple of a distance in a range up to `high`. -/
def lastPoint (high distance : Float) : Float := high - remainder high distance

/-- Whether a division of the distance gives more points than wanted. -/
def isTooFine (low high distance division : Float) (count : Nat) : Bool :=
  let smaller := distance / division
  let points := 1.0 + (lastPoint high smaller - firstPoint low smaller) / distance * division
  Binary64.toUnsigned64 Binary64.nearest points > count

/-- Divide the distance by two, five and ten in turn while the points are not too
many, then start over from a tenth. The grain shrinks with it. -/
def refine (low high : Float) (count : Nat) (distance grain : Float) : Option (Float × Float) :=
  if isTooFine low high distance 2.0 count then some (distance, grain)
  else if isTooFine low high distance 5.0 count then some (distance / 2.0, grain)
  else if isTooFine low high distance 10.0 count then some (distance / 5.0, grain)
  else if place (distance / 10.0) < place distance then
    refine low high count (distance / 10.0) (grain / 10.0)
  else
    -- The same distance would be tried again and again.
    none
termination_by place distance

/-- An offset moved on by one grain if the multiple of the grain nearest to it is
negative. -/
def fromBase (grain offset : Float) : Float :=
  if (offset / grain).round * grain < 0.0 then offset + grain else offset

/-- The points from an offset on, up to the last one. -/
def upTo (base last distance grain offset : Float) : Option (List Float) :=
  if last - offset - base ≥ -negligible then
    let start := fromBase grain offset
    if place offset < place (start + distance) then
      (upTo base last distance grain (start + distance)).map ((start + base) :: ·)
    else
      -- The same point would come again and again.
      none
  else some []
termination_by Nat.pow 2 65 - place offset
decreasing_by exact Nat.sub_lt_sub_left (place_lt offset) (by assumption)

/-- The labelled points of a range, at most so many, if the search for them ends. The
ends may come in any order. -/
def points? (one other : Float) (count : Nat) : Option (List Float) := do
  let low := if other < one then other else one
  let high := if other < one then one else other
  if count = 0 then return []
  if (low - high).abs < negligible then return [low]
  let power := Float.pow 10.0 (Binary64.floor ((high - low).log / (10.0 : Float).log))
  let tooMany :=
    1 + Binary64.toUnsigned64 Rat.floor ((high - low) / power) > count
  let scale := if tooMany then 10.0 else 1.0
  let (distance, grain) ← refine low high count (power * scale) (power / 10.0 * scale)
  let first := firstPoint low distance
  let base := Binary64.floor (first / grain) * grain
  upTo base (lastPoint high distance) distance grain (first - base)

/-- In a range of infinite length no division of an infinite distance gives too many points. -/
theorem isTooFine_of_infinite {count : Nat} {division : Float}
    (usual : division ∈ [2.0, 5.0, 10.0]) :
    isTooFine (-1.0 / 0.0) (1.0 / 0.0) (1.0 / 0.0) division count = false := by
  have uncounted : ∀ division ∈ [2.0, 5.0, 10.0],
      let smaller := 1.0 / 0.0 / division
      Binary64.toUnsigned64 Binary64.nearest
        (1.0 + (lastPoint (1.0 / 0.0) smaller - firstPoint (-1.0 / 0.0) smaller) / (1.0 / 0.0) *
          division) = 0 := by decide +kernel
  simp [isTooFine, uncounted division usual]

/-- In a range of infinite length the search for a distance does not end, once it is infinite. -/
theorem refine_eq_none_of_infinite (count : Nat) (grain : Float) :
    refine (-1.0 / 0.0) (1.0 / 0.0) count (1.0 / 0.0) grain = none := by
  have same : ¬ place (1.0 / 0.0 / 10.0) < place (1.0 / 0.0) := by decide +kernel
  rw [refine]
  simp [isTooFine_of_infinite, same]

end BenchFigures.Ticks
