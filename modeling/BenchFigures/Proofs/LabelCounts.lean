import BenchFigures.Proofs.BarsInRange
import BenchFigures.Proofs.LinesNearRange

/-!
# Counts of labels

A vertical axis is asked for one label more than its range has major steps, counted in 64 bits. If
the grid of the major step is drawn, its numbers have at most 53 bits and the range has a finite
height, these are at most 1002: the limit of lines keeps the ends of the range less than 1001
steps apart, and rounding does not add one. Nothing else limits the count, and from a quotient of
two to the power of 64 on it starts over from zero.
-/

namespace BenchFigures

namespace Binary64

/-- A multiple of a number is rounded up by little. -/
theorem rounded_mul_le {number : Rat} (kept : rounded number = number) (positive : 0 < number)
    {factor : Nat} (nonzero : 0 < factor) :
    rounded (factor * number) ≤ factor * number * (1 + 1 / 2 ^ 53) := by
  have casted : (0 : Rat) < factor := Nat.cast_pos.2 nonzero
  have scaled : 0 < factor * number := mul_pos casted positive
  obtain ⟨count, -, -, same⟩ := exists_count kept positive
  have least := least_grain number
  by_cases fine : grain |factor * number| ≤ grain number
  · have exact : rounded (factor * number) = factor * number := by
      apply rounded_of_coarse (factor * count) _ fine
      rw [Int.cast_mul, Int.cast_natCast, mul_assoc, ← same]
    rw [exact]
    nlinarith
  · have filled := (grain_least_or_le (abs_pos.2 scaled.ne')).resolve_left (by omega)
    obtain ⟨lower, -⟩ := abs_le.1 (abs_sub_rounded_le (factor * number))
    rw [abs_of_pos scaled] at filled lower
    rw [add_comm, zpow_add₀ two_ne_zero] at filled
    generalize (2 : Rat) ^ grain (factor * number) = grains at *
    norm_num at filled ⊢
    linarith

/-! ### Casts -/

/-- Cutting toward zero keeps the order. -/
theorem integerPart_mono : Monotone integerPart := by
  intro first second above
  rw [integerPart, integerPart]
  split_ifs with nonnegative nonnegative' nonnegative'
  · rw [floor_eq, floor_eq]
    exact Int.floor_le_floor above
  · exact absurd (nonnegative.trans above) nonnegative'
  · rw [ceil_eq, floor_eq]
    have below : ⌈first⌉ ≤ 0 := Int.ceil_le.2 (by exact_mod_cast (not_le.1 nonnegative).le)
    exact below.trans (Int.floor_nonneg.2 nonnegative')
  · rw [ceil_eq, ceil_eq]
    exact Int.ceil_le_ceil above

/-- Rounding to the nearest integer keeps the order. -/
theorem nearest_mono : Monotone nearest := by
  intro first second above
  rw [nearest, nearest]
  split_ifs with nonnegative nonnegative' nonnegative'
  · rw [floor_eq, floor_eq]
    exact Int.floor_le_floor (by linarith)
  · exact absurd (nonnegative.trans above) nonnegative'
  · rw [ceil_eq, floor_eq]
    have below : ⌈first - 1 / 2⌉ ≤ 0 := Int.ceil_le.2 (by push_cast; linarith)
    exact below.trans (Int.floor_nonneg.2 (by linarith))
  · rw [ceil_eq, ceil_eq]
    exact Int.ceil_le_ceil (by linarith)

/-- A cast rounds a value and holds it, and takes an infinite number to the bound on its side. -/
theorem saturate_cases {number : Float} (isNumber : number.isNaN = false) (rounding : Rat → Int)
    (lowest highest : Int) :
    (∃ value : Rat, extended number = ((value : ℝ) : EReal) ∧
      saturate rounding lowest highest number = max lowest (min highest (rounding value))) ∨
    (extended number = ⊤ ∧ saturate rounding lowest highest number = highest) ∨
    (extended number = ⊥ ∧ saturate rounding lowest highest number = lowest) := by
  rw [extended, saturate, isNumber]
  cases value? number with
  | some value => exact .inl ⟨value, rfl, rfl⟩
  | none =>
    cases isNegative number with
    | true => exact .inr (.inr ⟨rfl, rfl⟩)
    | false => exact .inr (.inl ⟨rfl, rfl⟩)

/-- A cast keeps the order of numbers. -/
theorem saturate_mono {rounding : Rat → Int} (mono : Monotone rounding) {lowest highest : Int}
    (ordered : lowest ≤ highest) {first second : Float} (above : first ≤ second) :
    saturate rounding lowest highest first ≤ saturate rounding lowest highest second := by
  obtain ⟨firstNumber, secondNumber⟩ := isNaN_eq_false_of_le above
  rw [le_iff_extended firstNumber secondNumber] at above
  rcases saturate_cases firstNumber rounding lowest highest with
    ⟨value, point, cast⟩ | ⟨point, cast⟩ | ⟨point, cast⟩ <;>
    rcases saturate_cases secondNumber rounding lowest highest with
      ⟨value', point', cast'⟩ | ⟨point', cast'⟩ | ⟨point', cast'⟩ <;>
    rw [cast, cast'] <;> rw [point, point'] at above
  · have values : value ≤ value' := by exact_mod_cast above
    have integers := mono values
    omega
  · omega
  · exact absurd above (EReal.bot_lt_coe _).not_ge
  · exact absurd above (EReal.coe_lt_top _).not_ge
  · exact absurd above bot_lt_top.not_ge
  · omega
  · exact ordered

theorem toUnsigned64_mono {rounding : Rat → Int} (mono : Monotone rounding) {first second : Float}
    (above : first ≤ second) : toUnsigned64 rounding first ≤ toUnsigned64 rounding second :=
  Int.toNat_le_toNat (saturate_mono mono (by decide) above)

/-- What is no number is cast to zero. -/
theorem saturate_of_isNaN {number : Float} (missing : number.isNaN = true)
    (rounding : Rat → Int) (lowest highest : Int) :
    saturate rounding lowest highest number = 0 := by
  have none : value? number = none := by rw [value?, (isNaN_iff number).1 missing]
  rw [saturate, none, missing]
  rfl

/-- A cast to 64 bits fits in them. -/
theorem toUnsigned64_lt (rounding : Rat → Int) (number : Float) :
    toUnsigned64 rounding number < 2 ^ 64 := by
  have highest : (Nat.pow 2 64 : Int) = 2 ^ 64 := by decide
  rw [toUnsigned64, highest]
  cases missing : number.isNaN with
  | true =>
    rw [saturate_of_isNaN missing]
    omega
  | false =>
    rcases saturate_cases missing rounding 0 (2 ^ 64 - 1) with
      ⟨value, -, cast⟩ | ⟨-, cast⟩ | ⟨-, cast⟩ <;> omega

/-- A way to make a count of a quotient: it keeps the order, gives less than one and a half more,
and cuts a quarter. -/
structure Counts (rounding : Rat → Int) : Prop where
  mono : Monotone rounding
  less : ∀ value : Rat, (rounding value : Rat) < value + 3 / 2
  limit : toUnsigned64 rounding 1001.25 = 1001
  highest : toUnsigned64 rounding 18446744073709551616.0 = 2 ^ 64 - 1

theorem counts_integerPart : Counts integerPart where
  mono := integerPart_mono
  less value := by
    rw [integerPart]
    split
    · rw [floor_eq]
      linarith [Int.floor_le value]
    · rw [ceil_eq]
      linarith [Int.ceil_lt_add_one value]
  limit := by decide +kernel
  highest := by decide +kernel

theorem counts_nearest : Counts nearest where
  mono := nearest_mono
  less value := by
    rw [nearest]
    split
    · rw [floor_eq]
      linarith [Int.floor_le (value + 1 / 2)]
    · rw [ceil_eq]
      linarith [Int.ceil_lt_add_one (value - 1 / 2)]
  limit := by decide +kernel
  highest := by decide +kernel

/-- A count in 64 bits reaches the greatest number exactly from two to the power of 64 on. -/
theorem Counts.toUnsigned64_eq_iff {rounding : Rat → Int} (counts : Counts rounding)
    (number : Float) :
    toUnsigned64 rounding number = 2 ^ 64 - 1 ↔ 18446744073709551616.0 ≤ number := by
  constructor
  · intro reached
    have most : value? 18446744073709551616.0 = some (2 ^ 64) := by decide +kernel
    have highest : (Nat.pow 2 64 : Int) = 2 ^ 64 := by decide
    rw [toUnsigned64, highest] at reached
    have isNumber : number.isNaN = false := by
      by_contra missing
      rw [saturate_of_isNaN (Bool.not_eq_false _ ▸ missing)] at reached
      omega
    rw [le_iff_extended (isNearest_of_value? most).isNumber isNumber, extended_of_value? most]
    rcases saturate_cases isNumber rounding 0 (2 ^ 64 - 1) with
      ⟨value, point, cast⟩ | ⟨point, cast⟩ | ⟨point, cast⟩
    · -- No number is that close below the power of two: grains are larger there.
      have close : rounded (2 ^ 64 - 5 / 2) = 2 ^ 64 := by decide +kernel
      have integers : 2 ^ 64 - 1 ≤ rounding value := by omega
      have casted : ((2 ^ 64 - 1 : Int) : Rat) ≤ rounding value := Int.cast_le.2 integers
      have above : (2 ^ 64 - 5 / 2 : Rat) ≤ value := by
        push_cast at casted
        linarith [counts.less value]
      have values := rounded_mono above
      rw [close, rounded_of_value? (value?_of_extended point)] at values
      rw [point]
      exact_mod_cast values
    · rw [point]
      exact le_top
    · rw [cast] at reached
      omega
  · intro above
    have casts := toUnsigned64_mono counts.mono above
    rw [counts.highest] at casts
    have upper := toUnsigned64_lt rounding number
    omega

end Binary64

/-! ### Labels of a vertical axis -/

namespace Plot

open Binary64

/-- How many labels a vertical axis is asked for, if its steps are made an integer by a rounding
rule. -/
def labelCount (rounding : Rat → Int) (range : Range) (step : Float) : Nat :=
  (toUnsigned64 rounding ((range.high - range.low) / step) + 1) % 2 ^ 64

theorem labelCount_integerPart (range : Range) (step : Float) :
    labelCount integerPart range step = ElapsedChart.labelCount range step := rfl

theorem labelCount_nearest (range : Range) (step : Float) :
    labelCount nearest range step = SpeedupChart.labelCount range step := rfl

section Few

variable {range : Range} {step : Float} {first last : Int}

/-- A range whose grid has bounds of at most 53 bits is less than 1001 and a quarter steps
high. -/
theorem steps_le (bounded : Grid.bounds range.low range.high step = .ok (first, last))
    (low : |first| < 2 ^ 53) (high : |last| < 2 ^ 53)
    (finite : isFinite (range.high - range.low)) :
    (range.high - range.low) / step ≤ 1001.25 := by
  obtain ⟨lower, upper, width, measures, numbers⟩ := Grid.exists_values_of_bounds bounded
  obtain ⟨height, tall⟩ := Option.isSome_iff_exists.1 finite
  have positive := measures.positive
  have few : last - first ≤ 999 := Int.lt_add_one_iff.1 numbers.few
  have near := (near_of_ceil low Grid.slack_pos Grid.slack_lt numbers.ceil_eq).1
  have near' := (near_of_floor high Grid.slack_pos Grid.slack_lt numbers.floor_eq).2
  -- The ends are less than 1001 steps apart, and so is their rounded distance but for its rounding.
  have apart : upper - lower ≤ (1001 : Nat) * width := by
    rw [lt_div_iff₀ positive] at near
    rw [div_lt_iff₀ positive] at near'
    have casted : (last : Rat) - first ≤ 999 := by exact_mod_cast few
    have scaled := mul_le_mul_of_nonneg_right casted positive.le
    push_cast
    linarith
  have same := (isNearest_sub measures.high measures.low).value_eq tall
  have bounded' := (rounded_mono apart).trans
    (rounded_mul_le (rounded_of_value? measures.step) positive (by decide))
  have divided : height / width ≤ 4005 / 4 := by
    rw [div_le_iff₀ positive, same]
    push_cast at bounded'
    linarith
  have most : value? 1001.25 = some (4005 / 4) := by decide +kernel
  exact (isNearest_div tall measures.step positive.ne').le (isNearest_of_value? most) divided

/-- The axis of such a range is asked for at most 1002 labels. -/
theorem labelCount_le {rounding : Rat → Int} (counts : Counts rounding)
    (bounded : Grid.bounds range.low range.high step = .ok (first, last))
    (low : |first| < 2 ^ 53) (high : |last| < 2 ^ 53)
    (finite : isFinite (range.high - range.low)) :
    1 ≤ labelCount rounding range step ∧ labelCount rounding range step ≤ 1002 := by
  have casts := toUnsigned64_mono counts.mono (steps_le bounded low high finite)
  rw [counts.limit] at casts
  rw [labelCount, Nat.mod_eq_of_lt (by omega)]
  omega

end Few

/-- The count starts over from zero exactly if there are at least two to the power of 64 steps. -/
theorem labelCount_eq_zero_iff {rounding : Rat → Int} (counts : Counts rounding) (range : Range)
    (step : Float) :
    labelCount rounding range step = 0 ↔
      18446744073709551616.0 ≤ (range.high - range.low) / step := by
  have fits := toUnsigned64_lt rounding ((range.high - range.low) / step)
  rw [← counts.toUnsigned64_eq_iff, labelCount]
  omega

end Plot

end BenchFigures
