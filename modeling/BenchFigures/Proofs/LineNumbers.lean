import BenchFigures.Proofs.CorrectRounding
import BenchFigures.Proofs.Gridlines

/-!
# Line numbers of rounded quotients

The first and the last line of a grid are numbered by the ends of the range divided by the step,
which is rounded, and then moved by the tolerance, which is rounded again. As long as a number has
at most 53 bits, it is less than one away from the exact quotient all the same: an integer is not
moved by rounding, so a quotient cannot be carried past one, and the tolerance is not enough to
get to the next.
-/

namespace BenchFigures

namespace Binary64

/-! ### Numbers that are rounded twice -/

/-- What is at least an integer of 53 bits is at least that integer when rounded. -/
theorem le_rounded_of_intCast {number : Int} {value : Rat} (short : |number| ≤ 2 ^ 53)
    (above : number ≤ value) : number ≤ rounded value := by
  rw [← rounded_intCast short]
  exact rounded_mono above

/-- What is at most an integer of 53 bits is at most that integer when rounded. -/
theorem rounded_le_of_intCast {number : Int} {value : Rat} (short : |number| ≤ 2 ^ 53)
    (below : value ≤ number) : rounded value ≤ number := by
  rw [← rounded_intCast short]
  exact rounded_mono below

/-- A value with a few more bits than 53 is moved by rounding by at most half of what these
count. -/
theorem abs_sub_rounded_le_of_lt {value : Rat} (bits : Nat) (short : |value| < 2 ^ (53 + bits)) :
    |value - rounded value| ≤ 2 ^ bits / 2 := by
  have fine : grain |value| ≤ bits := by
    rcases eq_or_ne value 0 with rfl | nonzero
    · have least : grain |0| ≤ 0 := by decide +kernel
      omega
    · rcases grain_least_or_le (abs_pos.2 nonzero) with least | filled
      · omega
      · have upper : |value| < 2 ^ ((53 + bits : Nat) : Int) := by rwa [zpow_natCast]
        have powers := (zpow_lt_zpow_iff_right₀ one_lt_two).1 (filled.trans_lt upper)
        omega
  calc |value - rounded value| ≤ 2 ^ grain |value| / 2 := abs_sub_rounded_le value
    _ ≤ 2 ^ (bits : Int) / 2 := by
        have powers := zpow_le_zpow_right₀ (one_le_two (α := Rat)) fine
        linarith
    _ = 2 ^ bits / 2 := by rw [zpow_natCast]

section Numbered

variable {exact slack : Rat} {number : Int}

/-- The number below a quotient is the one above the opposite quotient, with the opposite sign. -/
theorem ceil_of_floor (flooring : ⌊rounded (rounded exact + slack)⌋ = number) :
    ⌈rounded (rounded (-exact) - slack)⌉ = -number := by
  rw [rounded_neg, ← neg_add', rounded_neg, Int.ceil_neg, flooring]

/-- The number above a quotient that is rounded, lowered by a tolerance and rounded again is less
than one away from the exact quotient. -/
theorem near_of_ceil (short : |number| < 2 ^ 53) (positive : 0 < slack) (small : slack < 1 / 2)
    (ceiling : ⌈rounded (rounded exact - slack)⌉ = number) :
    (number : Rat) - 1 < exact ∧ exact < number + 1 := by
  obtain ⟨lower, upper⟩ := abs_lt.1 short
  obtain ⟨above, below⟩ := Int.ceil_eq_iff.1 ceiling
  constructor
  · by_contra reached
    have held : exact ≤ (number - 1 : Int) := by
      push_cast
      exact not_lt.1 reached
    have before : |number - 1| ≤ 2 ^ 53 := abs_le.2 ⟨by omega, by omega⟩
    have once := rounded_le_of_intCast before held
    have twice := rounded_le_of_intCast before ((sub_le_self _ positive.le).trans once)
    push_cast at twice
    linarith
  · by_contra reached
    have held : (number + 1 : Int) ≤ exact := by
      push_cast
      exact not_lt.1 reached
    have after : |number + 1| ≤ 2 ^ 53 := abs_le.2 ⟨by omega, by omega⟩
    have once := le_rounded_of_intCast after held
    push_cast at once
    -- One tolerance below the next number, rounding does not go down to this number.
    have near : |(number : Rat) + 1 - slack| < 2 ^ 53 := by
      have casted : ((-2 ^ 53 : Int) : Rat) + 1 ≤ number := by exact_mod_cast lower
      have casted' : (number : Rat) + 1 ≤ (2 ^ 53 : Int) := by exact_mod_cast upper
      push_cast at casted casted'
      rw [abs_lt]
      constructor <;> linarith
    obtain ⟨-, half⟩ := abs_le.1 (abs_sub_rounded_le_of_lt 0 near)
    have lowered := rounded_mono (sub_le_sub_right once slack)
    linarith

/-- The number below a quotient that is rounded, raised by a tolerance and rounded again is less
than one away from the exact quotient. -/
theorem near_of_floor (short : |number| < 2 ^ 53) (positive : 0 < slack) (small : slack < 1 / 2)
    (flooring : ⌊rounded (rounded exact + slack)⌋ = number) :
    (number : Rat) - 1 < exact ∧ exact < number + 1 := by
  obtain ⟨above, below⟩ := near_of_ceil (by rwa [abs_neg]) positive small (ceil_of_floor flooring)
  push_cast at above below
  constructor <;> linarith

/-- A number of about 64 bits may be further away from the exact quotient. -/
theorem close_of_ceil (positive : 0 < slack) (small : slack < 1 / 2)
    (ceiling : ⌈rounded (rounded exact - slack)⌉ = number) (low : -2 ^ 63 - 2 ^ 10 ≤ number)
    (high : number ≤ 2 ^ 63) : |number - exact| < 2050 := by
  obtain ⟨above, below⟩ := Int.ceil_eq_iff.1 ceiling
  have least : (-2 ^ 63 - 2 ^ 10 : Rat) ≤ number := by exact_mod_cast low
  have most : (number : Rat) ≤ 2 ^ 63 := by exact_mod_cast high
  have outer : rounded (2 ^ 63 + 2 ^ 12) = 2 ^ 63 + 2 ^ 12 := by decide +kernel
  have inner : rounded (2 ^ 63 + 2 ^ 11) = 2 ^ 63 + 2 ^ 11 := by decide +kernel
  have held : |exact| < 2 ^ 63 + 2 ^ 12 := by
    rw [abs_lt]
    constructor
    · by_contra reached
      have once := rounded_mono (not_lt.1 reached)
      have twice := rounded_mono ((sub_le_self _ positive.le).trans once)
      rw [rounded_neg, outer, rounded_neg, outer] at twice
      linarith
    · by_contra reached
      have once := rounded_mono (not_lt.1 reached)
      rw [outer] at once
      have lowered : 2 ^ 63 + 2 ^ 11 ≤ rounded exact - slack := by linarith
      have twice := rounded_mono lowered
      rw [inner] at twice
      linarith
  obtain ⟨lower, upper⟩ := abs_lt.1 held
  obtain ⟨onceAbove, onceBelow⟩ :=
    abs_le.1 (abs_sub_rounded_le_of_lt 11 (held.trans (by norm_num)))
  have moved : |rounded exact - slack| < 2 ^ 64 := by
    rw [abs_lt]
    constructor <;> linarith
  obtain ⟨twiceAbove, twiceBelow⟩ := abs_le.1 (abs_sub_rounded_le_of_lt 11 moved)
  rw [abs_lt]
  constructor <;> linarith

/-- The same holds for the number below it. -/
theorem close_of_floor (positive : 0 < slack) (small : slack < 1 / 2)
    (flooring : ⌊rounded (rounded exact + slack)⌋ = number) (low : -2 ^ 63 ≤ number)
    (high : number ≤ 2 ^ 63 + 2 ^ 10) : |number - exact| < 2050 := by
  have opposite := close_of_ceil positive small (ceil_of_floor flooring) (by omega) (by omega)
  rwa [Int.cast_neg, ← neg_add', abs_neg, ← sub_eq_add_neg] at opposite

/-- If that number is beyond 64 bits, the exact quotient is, too. -/
theorem beyond_of_ceil (positive : 0 < slack)
    (ceiling : ⌈rounded (rounded exact - slack)⌉ = number) (far : 2 ^ 63 < number) :
    2 ^ 63 < exact := by
  have kept : rounded (2 ^ 63) = 2 ^ 63 := by decide +kernel
  have above : (2 ^ 63 : Rat) < rounded (rounded exact - slack) := by
    exact_mod_cast Int.lt_ceil.1 (far.trans_eq ceiling.symm)
  by_contra reached
  have once := rounded_mono (not_lt.1 reached)
  rw [kept] at once
  have twice := rounded_mono ((sub_le_self _ positive.le).trans once)
  rw [kept] at twice
  exact above.not_ge twice

/-- The same holds below. -/
theorem beyond_of_floor (positive : 0 < slack)
    (flooring : ⌊rounded (rounded exact + slack)⌋ = number) (far : number < -2 ^ 63) :
    exact < -2 ^ 63 := by
  have above := beyond_of_ceil positive (ceil_of_floor flooring) (by omega)
  linarith

end Numbered

/-! ### Gaps between numbers -/

/-- Between a positive number that rounding keeps and the next one there is at least a grain. -/
theorem add_grain_le_of_lt {lower upper : Rat} (kept : rounded lower = lower)
    (kept' : rounded upper = upper) (positive : 0 < lower) (less : lower < upper) :
    lower + 2 ^ grain lower ≤ upper := by
  have width : (0 : Rat) < 2 ^ grain lower := zpow_pos two_pos _
  obtain ⟨distance, apart⟩ := Int.eq_ofNat_of_zero_le
    (sub_nonneg.2 (grain_mono positive less.le))
  obtain ⟨count, -, -, same⟩ := exists_count kept positive
  obtain ⟨count', -, -, same'⟩ := exists_count kept' (positive.trans less)
  -- Both are whole numbers of the smaller grain.
  rw [show grain upper = distance + grain lower by omega, zpow_add₀ two_ne_zero, ← mul_assoc,
    zpow_natCast] at same'
  generalize (2 : Rat) ^ grain lower = grains at *
  have counts : count + 1 ≤ count' * 2 ^ distance := by
    rw [same, same', mul_lt_mul_iff_left₀ width] at less
    exact_mod_cast less
  calc lower + grains = ((count + 1 : Int) : Rat) * grains := by
        push_cast
        rw [add_mul, one_mul, ← same]
    _ ≤ ((count' * 2 ^ distance : Int) : Rat) * grains :=
        mul_le_mul_of_nonneg_right (Int.cast_le.2 counts) width.le
    _ = upper := by
        push_cast
        exact same'.symm

/-- What is most of a grain above a positive number that rounding keeps is not rounded down
to it. -/
theorem lt_rounded_of_grain {number value : Rat} (kept : rounded number = number)
    (positive : 0 < number) (above : number + 3 / 4 * 2 ^ grain number ≤ value) :
    number < rounded value := by
  have width : (0 : Rat) < 2 ^ grain number := zpow_pos two_pos _
  have between : 0 < number + 3 / 4 * 2 ^ grain number := by positivity
  obtain ⟨count, -, short, same⟩ := exists_count kept positive
  have below : number + 3 / 4 * 2 ^ grain number < 2 ^ (grain number + 53) := by
    have casted : (count : Rat) + 1 ≤ 2 ^ (53 : Int) := by
      exact_mod_cast Int.add_one_le_iff.2 short
    calc number + 3 / 4 * 2 ^ grain number < (count + 1) * 2 ^ grain number := by
          rw [add_mul, one_mul, ← same]
          linarith
      _ ≤ 2 ^ (53 : Int) * 2 ^ grain number := mul_le_mul_of_nonneg_right casted width.le
      _ = 2 ^ (grain number + 53) := by rw [add_comm, zpow_add₀ two_ne_zero]
  have fine : grain (number + 3 / 4 * 2 ^ grain number) ≤ grain number := by
    rcases grain_least_or_le between with least | filled
    · rw [least]
      exact least_grain number
    · have powers := (zpow_lt_zpow_iff_right₀ one_lt_two).1 (filled.trans_lt below)
      omega
  have powers := zpow_le_zpow_right₀ (one_le_two (α := Rat)) fine
  obtain ⟨-, half⟩ := abs_le.1 (abs_sub_rounded_le (number + 3 / 4 * 2 ^ grain number))
  rw [abs_of_pos between] at half
  calc number < number + 3 / 4 * 2 ^ grain number - 2 ^ grain number / 2 := by linarith
    _ ≤ rounded (number + 3 / 4 * 2 ^ grain number) := by linarith
    _ ≤ rounded value := rounded_mono above

/-- Scaling a number that rounding keeps by a power of two gives another one. -/
theorem rounded_two_pow_mul {number : Rat} (kept : rounded number = number)
    (positive : 0 < number) (power : Nat) :
    rounded (2 ^ power * number) = 2 ^ power * number := by
  obtain ⟨count, nonzero, short, same⟩ := exists_count kept positive
  have least := least_grain number
  have scaled : 2 ^ power * number = count * 2 ^ (power + grain number) := by
    rw [zpow_add₀ two_ne_zero, zpow_natCast, mul_left_comm, ← same]
  rw [scaled]
  exact rounded_of_short (by rw [abs_of_pos nonzero]; exact short.le) (by omega)

/-- If more than two to the power of 63 steps lead up to an end of a range, that many are more
than one step short of it, however the difference is rounded. -/
theorem lt_rounded_sub_of_beyond {edge width : Rat} (kept : rounded edge = edge)
    (kept' : rounded width = width) (positive : 0 < width) (beyond : 2 ^ 63 * width < edge) :
    2 ^ 63 * width < rounded (edge - width) := by
  have reached := rounded_two_pow_mul kept' positive 63
  have positive' : 0 < 2 ^ 63 * width := by positivity
  apply lt_rounded_of_grain reached positive'
  have apart := add_grain_le_of_lt reached kept positive' beyond
  have upper := lt_grain (2 ^ 63 * width)
  rw [zpow_add₀ two_ne_zero] at upper
  generalize (2 : Rat) ^ grain (2 ^ 63 * width) = grains at *
  have narrow : 2 ^ 10 * width < grains := by
    norm_num at upper ⊢
    linarith
  linarith

end Binary64

end BenchFigures
