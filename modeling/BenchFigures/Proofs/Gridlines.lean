import BenchFigures.Chart.Grid
import Mathlib

/-!
# Gridlines without rounding

Read over the rationals, the gridlines of a range are exactly the multiples of the step in it,
a tolerance allowed at each end. They come in ascending order, each once, and they are refused
exactly if there are more than a thousand. The ends of the range may come in any order: if the
upper one is below the lower one by more than the tolerances, there are no lines.

Numbers of lines are held to 64 bits before the lines are made, so the lines are the right ones
as long as the first and the last number fit.
-/

namespace BenchFigures.Grid

/-! ### Integers from the first to the last -/

/-- An integer is listed exactly if it is between the first and the last. -/
theorem mem_between (first last number : Int) :
    number ∈ between first last ↔ first ≤ number ∧ number ≤ last := by
  rw [between, List.mem_map]
  constructor
  · rintro ⟨offset, member, rfl⟩
    have inside := List.mem_range.1 member
    omega
  · rintro ⟨above, below⟩
    refine ⟨(number - first).toNat, List.mem_range.2 ?_, ?_⟩
    · omega
    · omega

/-- The integers are listed in ascending order. -/
theorem sortedLT_between (first last : Int) : (between first last).SortedLT := by
  apply List.Pairwise.sortedLT
  rw [between, List.pairwise_map]
  apply List.pairwise_lt_range.imp
  intro offset other less
  omega

/-- A 64-bit signed integer can be this. -/
def FitsSigned64 (number : Int) : Prop := -2 ^ 63 ≤ number ∧ number < 2 ^ 63

instance : DecidablePred FitsSigned64 := fun _ => inferInstanceAs (Decidable (_ ∧ _))

/-- What fits in 64 bits is held as it is. -/
theorem heldToSigned64_of_fits {number : Int} (fits : FitsSigned64 number) :
    heldToSigned64 number = number := by
  have lowest : (-Nat.pow 2 63 : Int) = -2 ^ 63 := by decide
  have highest : (Nat.pow 2 63 : Int) = 2 ^ 63 := by decide
  obtain ⟨above, below⟩ := fits
  rw [heldToSigned64, lowest, highest]
  omega

/-! ### Multiples of a step -/

section Exact

variable (low high step : Rat)

/-- The number of the first line: the least multiple of the step in the range. -/
def firstNumber : Int := (low / step - 1e-9).ceil

/-- The number of the last line: the greatest multiple of the step in the range. -/
def lastNumber : Int := (high / step + 1e-9).floor

/-- The multiples of the step in the range, by their numbers. -/
def multiples : Set Int :=
  {number | low / step - 1e-9 ≤ number ∧ (number : Rat) ≤ high / step + 1e-9}

/-- The multiples in the range are those from the first to the last. -/
theorem mem_multiples_iff (number : Int) :
    number ∈ multiples low high step ↔
      firstNumber low step ≤ number ∧ number ≤ lastNumber high step := by
  rw [firstNumber, lastNumber, Rat.ceil_le_iff, Rat.le_floor_iff]
  rfl

/-- How many multiples there are. -/
theorem encard_multiples :
    (multiples low high step).encard =
      (lastNumber high step + 1 - firstNumber low step).toNat := by
  have interval : multiples low high step =
      Finset.Icc (firstNumber low step) (lastNumber high step) := by
    ext number
    rw [mem_multiples_iff, Finset.coe_Icc, Set.mem_Icc]
  rw [interval, Set.encard_coe_eq_coe_finsetCard, Int.card_Icc]

/-- There are at most a thousand multiples exactly if fewer than a thousand steps lie between
the first and the last. -/
theorem encard_multiples_le_iff :
    (multiples low high step).encard ≤ 1000 ↔
      ¬ limit ≤ lastNumber high step - firstNumber low step := by
  rw [encard_multiples, limit]
  norm_cast
  omega

variable {low high step}

/-- A step that is not positive is refused. -/
theorem bounds_of_nonpositive (refused : step ≤ 0) : bounds low high step = .error .badStep := by
  have isBad : Scalar.le step (Scalar.ofInt 0) = true := decide_eq_true refused
  rw [bounds, isBad, Bool.or_true, if_pos rfl]

/-- With a positive step, there are bounds unless the lines are too many. -/
theorem bounds_of_positive (positive : 0 < step) :
    bounds low high step =
      if limit ≤ lastNumber high step - firstNumber low step then .error .tooManyLines
      else .ok (firstNumber low step, lastNumber high step) := by
  have isGood : Scalar.le step (Scalar.ofInt 0) = false := decide_eq_false positive.not_ge
  have finite : Scalar.isFinite step = true := rfl
  have first : Scalar.ceil? (low / step - tolerance) = some (firstNumber low step) := rfl
  have last : Scalar.floor? (high / step + tolerance) = some (lastNumber high step) := rfl
  rw [bounds, isGood, finite]
  simp only [first, last]
  rfl

/-- With a positive step, the lines are the multiples from the first to the last number as they
are held, unless they are too many. -/
theorem lines_of_positive (positive : 0 < step) :
    lines low high step =
      if limit ≤ lastNumber high step - firstNumber low step then .error .tooManyLines
      else .ok ((between (heldToSigned64 (firstNumber low step))
        (heldToSigned64 (lastNumber high step))).map
          fun number : Int => (number : Rat) * step) := by
  rw [lines, bounds_of_positive positive]
  split <;> rfl

/-- Multiples of a positive step are in the order of their numbers. -/
theorem sortedLT_map_mul {numbers : List Int} (sorted : numbers.SortedLT) (positive : 0 < step) :
    (numbers.map fun number : Int => (number : Rat) * step).SortedLT := by
  apply List.Pairwise.sortedLT
  apply List.pairwise_map.2
  apply sorted.pairwise.imp
  intro first second less
  have casted : (first : Rat) < second := Int.cast_lt.2 less
  exact mul_lt_mul_of_pos_right casted positive

/-- The gridlines of a range, in exact arithmetic. A step that is not positive is refused. With
a positive step, there are gridlines exactly if at most a thousand multiples of it lie in the
range, a tolerance allowed at each end, and too many are refused. The gridlines are all these
multiples, each once and in ascending order, if the first and the last number fit in 64 bits. -/
theorem lines_eq_multiples (low high step : Rat) :
    (step ≤ 0 → lines low high step = .error .badStep) ∧
    (0 < step →
      ((∃ drawn, lines low high step = .ok drawn) ↔ (multiples low high step).encard ≤ 1000) ∧
      (¬ (multiples low high step).encard ≤ 1000 →
        lines low high step = .error .tooManyLines) ∧
      (FitsSigned64 (firstNumber low step) → FitsSigned64 (lastNumber high step) →
        ∀ drawn, lines low high step = .ok drawn →
          drawn.SortedLT ∧ ∃ numbers : List Int, numbers.SortedLT ∧
            (∀ number, number ∈ numbers ↔ number ∈ multiples low high step) ∧
            drawn = numbers.map fun number : Int => (number : Rat) * step)) := by
  constructor
  · intro refused
    rw [lines, bounds_of_nonpositive refused]
    rfl
  · intro positive
    rw [encard_multiples_le_iff, lines_of_positive positive]
    refine ⟨?_, ?_, ?_⟩
    · split <;> simp_all
    · intro tooMany
      rw [if_pos (not_not.1 tooMany)]
    · intro firstFits lastFits drawn computed
      rw [heldToSigned64_of_fits firstFits, heldToSigned64_of_fits lastFits] at computed
      split at computed
      · simp at computed
      · obtain rfl := Except.ok.inj computed
        have sorted := sortedLT_between (firstNumber low step) (lastNumber high step)
        refine ⟨sortedLT_map_mul sorted positive, _, sorted, ?_, rfl⟩
        intro number
        rw [mem_between, mem_multiples_iff]

/-- Both ends of this range are on a line, and a step of nothing is refused. -/
theorem lines_eq_multiples_fifty :
    lines (0 : Rat) 50 (25 / 2) = .ok [0, 25 / 2, 25, 75 / 2, 50] ∧
      lines (0 : Rat) 50 0 = .error .badStep := by
  refine ⟨?_, (lines_eq_multiples 0 50 0).1 le_rfl⟩
  obtain ⟨drawn_iff, -, values⟩ := (lines_eq_multiples 0 50 (25 / 2)).2 (by norm_num)
  have first : firstNumber 0 (25 / 2) = 0 := by decide +kernel
  have last : lastNumber 50 (25 / 2) = 4 := by decide +kernel
  have few : (multiples 0 50 (25 / 2)).encard ≤ 1000 := by
    rw [encard_multiples_le_iff, first, last]
    decide
  obtain ⟨drawn, computed⟩ := drawn_iff.2 few
  obtain ⟨-, numbers, sorted, inRange, rfl⟩ := values (by rw [first]; decide) (by rw [last]; decide)
    drawn computed
  have numbered : numbers = between 0 4 := by
    apply sorted.eq_of_mem_iff (sortedLT_between 0 4)
    intro number
    rw [inRange, mem_multiples_iff, first, last, mem_between]
  rw [computed, numbered]
  decide +kernel

end Exact

end BenchFigures.Grid
