import BenchFigures.Proofs.ExtendedValues
import Mathlib.Data.Int.Log

/-!
# Rounding to 53 bits

What is computed with binary64 numbers is an exact value, rounded. The exact value is measured in
grains, where a grain is the last bit that is kept: so large that the value has 53 bits of it,
but never less than the least positive number. The number of grains is rounded to the nearest
integer, a half going to the even one. What is too large to be stored then becomes infinite.

All of this is monotone, which is what makes rounded results comparable at any magnitude.
-/

namespace BenchFigures.Binary64

/-! ### The nearest integer -/

/-- The nearest integer to a rational, a half going to the even one. -/
def nearestEven (value : Rat) : Int :=
  if Int.fract value < 1 / 2 then ⌊value⌋
  else if 1 / 2 < Int.fract value then ⌊value⌋ + 1
  else ⌊value⌋ + ⌊value⌋ % 2

/-- The nearest integer is the one below or the one above. -/
theorem nearestEven_bounds (value : Rat) :
    ⌊value⌋ ≤ nearestEven value ∧ nearestEven value ≤ ⌊value⌋ + 1 := by
  rw [nearestEven]
  split
  · omega
  · split <;> omega

theorem nearestEven_intCast (number : Int) : nearestEven number = number := by
  rw [nearestEven, Int.fract_intCast, if_pos (by norm_num), Int.floor_intCast]

/-- A greater value does not have a smaller nearest integer. -/
theorem nearestEven_mono : Monotone nearestEven := by
  intro first second above
  rcases (Int.floor_le_floor above).lt_or_eq with apart | same
  · have upper := (nearestEven_bounds first).2
    have lower := (nearestEven_bounds second).1
    omega
  · have fractions : Int.fract first ≤ Int.fract second := by
      rw [Int.fract, Int.fract, same]
      exact sub_le_sub_right above _
    rw [nearestEven, nearestEven, same]
    split_ifs with _ _ _ below high high'
    · rfl
    · omega
    · omega
    · linarith
    · rfl
    · linarith
    · linarith
    · omega
    · rfl

/-- The nearest integer is at most one half away. -/
theorem abs_sub_nearestEven_le (value : Rat) : |value - nearestEven value| ≤ 1 / 2 := by
  have split := Int.floor_add_fract value
  have nonnegative := Int.fract_nonneg value
  have less := Int.fract_lt_one value
  rw [nearestEven, abs_le]
  split_ifs with low high
  · constructor <;> linarith
  · push_cast
    constructor <;> linarith
  · have half : Int.fract value = 1 / 2 := le_antisymm (not_lt.1 high) (not_lt.1 low)
    rcases Int.emod_two_eq_zero_or_one ⌊value⌋ with even | odd
    · rw [even]
      push_cast
      constructor <;> linarith
    · rw [odd]
      push_cast
      constructor <;> linarith

/-- Rounding does not favour a side. -/
theorem nearestEven_neg (value : Rat) : nearestEven (-value) = -nearestEven value := by
  by_cases whole : Int.fract value = 0
  · obtain ⟨number, rfl⟩ := Int.fract_eq_zero_iff.1 whole
    rw [← Int.cast_neg, nearestEven_intCast, nearestEven_intCast]
  · have fraction : Int.fract (-value) = 1 - Int.fract value := Int.fract_neg whole
    have floors : ⌊-value⌋ = -⌊value⌋ - 1 := by
      have own := Int.floor_add_fract value
      have other := Int.floor_add_fract (-value)
      rw [fraction] at other
      have casted : ((⌊-value⌋ : Int) : Rat) = ((-⌊value⌋ - 1 : Int) : Rat) := by
        push_cast
        linarith
      exact_mod_cast casted
    rw [nearestEven, nearestEven, fraction, floors]
    split_ifs with _ low _ high
    · linarith
    · omega
    · linarith
    · omega
    · linarith
    · linarith
    · linarith
    · linarith
    · omega

/-! ### Grains -/

/-- The exponent of the last bit that is kept of a magnitude. -/
def grain (magnitude : Rat) : Int := max (Int.log 2 magnitude - 52) (-1074)

theorem least_grain (magnitude : Rat) : -1074 ≤ grain magnitude := le_max_right _ _

section Grain

variable {magnitude : Rat}

/-- A magnitude has at most 53 bits before the last one that is kept. -/
theorem lt_grain (magnitude : Rat) : magnitude < 2 ^ (grain magnitude + 53) := by
  have upper := Int.lt_zpow_succ_log_self (b := 2) one_lt_two magnitude
  push_cast at upper
  refine upper.trans_le (zpow_le_zpow_right₀ one_le_two ?_)
  rw [grain]
  omega

/-- A magnitude has 53 bits before the last one that is kept, unless that is the least one. -/
theorem grain_least_or_le (positive : 0 < magnitude) :
    grain magnitude = -1074 ∨ (2 : Rat) ^ (grain magnitude + 52) ≤ magnitude := by
  have lower := Int.zpow_log_le_self (b := 2) one_lt_two positive
  push_cast at lower
  rcases le_total (Int.log 2 magnitude - 52) (-1074) with least | above
  · exact .inl (max_eq_right least)
  · right
    rw [grain, max_eq_left above, sub_add_cancel]
    exact lower

/-- These bounds determine the grain. -/
theorem grain_eq {exponent : Int} (positive : 0 < magnitude) (least : -1074 ≤ exponent)
    (upper : magnitude < 2 ^ (exponent + 53))
    (lower : exponent = -1074 ∨ (2 : Rat) ^ (exponent + 52) ≤ magnitude) :
    grain magnitude = exponent := by
  have separate {one other : Int} (below : (2 : Rat) ^ (one + 52) ≤ magnitude)
      (beyond : magnitude < 2 ^ (other + 53)) : one ≤ other := by
    have powers := (zpow_lt_zpow_iff_right₀ one_lt_two).1 (below.trans_lt beyond)
    omega
  apply le_antisymm
  · rcases grain_least_or_le positive with same | own
    · omega
    · exact separate own upper
  · rcases lower with same | own
    · have := least_grain magnitude
      omega
    · exact separate own (lt_grain magnitude)

theorem grain_mono {other : Rat} (positive : 0 < magnitude) (above : magnitude ≤ other) :
    grain magnitude ≤ grain other := by
  have logarithms := Int.log_mono_right (b := 2) positive above
  rw [grain, grain]
  omega

end Grain

/-! ### Rounding -/

/-- A value rounded to a whole number of its grains. -/
def rounded (value : Rat) : Rat := nearestEven (value / 2 ^ grain |value|) * 2 ^ grain |value|

theorem rounded_neg (value : Rat) : rounded (-value) = -rounded value := by
  rw [rounded, rounded, abs_neg, neg_div, nearestEven_neg, Int.cast_neg, neg_mul]

/-- A whole number of grains is not changed. -/
theorem rounded_of_multiple {value : Rat} (count : Int)
    (multiple : value = count * 2 ^ grain |value|) : rounded value = value := by
  have counted : value / 2 ^ grain |value| = count := by
    rw [div_eq_iff (zpow_ne_zero _ two_ne_zero)]
    exact multiple
  rw [rounded, counted, nearestEven_intCast, ← multiple]

/-- What has no bits below its grain is not changed. -/
theorem rounded_of_coarse {value : Rat} (count : Int) {exponent : Int}
    (multiple : value = count * 2 ^ exponent) (coarse : grain |value| ≤ exponent) :
    rounded value = value := by
  obtain ⟨distance, apart⟩ := Int.eq_ofNat_of_zero_le (sub_nonneg.2 coarse)
  have moved : exponent = distance + grain |value| := by omega
  apply rounded_of_multiple (count * 2 ^ distance)
  calc value = count * 2 ^ (distance + grain |value|) := by rw [← moved, ← multiple]
    _ = ((count * 2 ^ distance : Int) : Rat) * 2 ^ grain |value| := by
        rw [zpow_add₀ two_ne_zero, zpow_natCast]
        push_cast
        ring

theorem rounded_zero : rounded 0 = 0 :=
  rounded_of_multiple 0 (by rw [Int.cast_zero, zero_mul])

/-- What is rounded is at most half a grain away. -/
theorem abs_sub_rounded_le (value : Rat) : |value - rounded value| ≤ 2 ^ grain |value| / 2 := by
  have positive : (0 : Rat) < 2 ^ grain |value| := zpow_pos two_pos _
  have counts := abs_sub_nearestEven_le (value / 2 ^ grain |value|)
  have scaled : value - rounded value =
      (value / 2 ^ grain |value| - nearestEven (value / 2 ^ grain |value|)) *
        2 ^ grain |value| := by
    rw [rounded, sub_mul, div_mul_cancel₀ _ positive.ne']
  rw [scaled, abs_mul, abs_of_pos positive]
  calc |value / 2 ^ grain |value| - nearestEven (value / 2 ^ grain |value|)| * 2 ^ grain |value|
      ≤ 1 / 2 * 2 ^ grain |value| := mul_le_mul_of_nonneg_right counts positive.le
    _ = 2 ^ grain |value| / 2 := by ring

theorem rounded_nonneg {value : Rat} (nonnegative : 0 ≤ value) : 0 ≤ rounded value := by
  have width : (0 : Rat) < 2 ^ grain |value| := zpow_pos two_pos _
  have counts := nearestEven_mono (div_nonneg nonnegative width.le)
  rw [← Int.cast_zero, nearestEven_intCast] at counts
  exact mul_nonneg (Int.cast_nonneg counts) width.le

/-- A magnitude is rounded to a number of grains. -/
theorem rounded_of_pos {magnitude : Rat} (positive : 0 < magnitude) :
    rounded magnitude = nearestEven (magnitude / 2 ^ grain magnitude) * 2 ^ grain magnitude := by
  rw [rounded, abs_of_pos positive]

/-- The number of grains that a magnitude is rounded to has 53 bits, or is the power of two above
them. -/
theorem nearestEven_grains {magnitude : Rat} (positive : 0 < magnitude) :
    nearestEven (magnitude / 2 ^ grain magnitude) ≤ 2 ^ 53 ∧
      (grain magnitude = -1074 ∨ 2 ^ 52 ≤ nearestEven (magnitude / 2 ^ grain magnitude)) := by
  have width : (0 : Rat) < 2 ^ grain magnitude := zpow_pos two_pos _
  have upper := lt_grain magnitude
  constructor
  · rw [← nearestEven_intCast (2 ^ 53)]
    apply nearestEven_mono
    rw [div_le_iff₀ width]
    rw [add_comm, zpow_add₀ two_ne_zero] at upper
    exact_mod_cast upper.le
  · apply (grain_least_or_le positive).imp_right
    intro filled
    rw [← nearestEven_intCast (2 ^ 52)]
    apply nearestEven_mono
    rw [le_div_iff₀ width]
    rw [add_comm, zpow_add₀ two_ne_zero] at filled
    exact_mod_cast filled

/-- A positive number that rounding keeps is a whole number of grains. -/
theorem exists_count {number : Rat} (kept : rounded number = number) (positive : 0 < number) :
    ∃ count : Int, 0 < count ∧ count < 2 ^ 53 ∧ number = count * 2 ^ grain number := by
  have width : (0 : Rat) < 2 ^ grain number := zpow_pos two_pos _
  have upper := lt_grain number
  rw [add_comm, zpow_add₀ two_ne_zero, ← div_lt_iff₀ width] at upper
  have above := div_pos positive width
  have counted : number / 2 ^ grain number = nearestEven (number / 2 ^ grain number) := by
    rw [div_eq_iff width.ne', ← rounded_of_pos positive, kept]
  rw [counted] at upper above
  exact ⟨_, by exact_mod_cast above, by exact_mod_cast upper, (div_eq_iff width.ne').1 counted⟩

/-- Among positive values, the greater one is not rounded to less. -/
theorem rounded_le_rounded_of_pos {first second : Rat} (positive : 0 < first)
    (above : first ≤ second) : rounded first ≤ rounded second := by
  have positive' := positive.trans_le above
  have width : (0 : Rat) < 2 ^ grain second := zpow_pos two_pos _
  rw [rounded_of_pos positive, rounded_of_pos positive']
  rcases (grain_mono positive above).lt_or_eq with apart | same
  · -- Between two grains there is a power of two, which is a whole number of either.
    have upper := (nearestEven_grains positive).1
    have lower := (nearestEven_grains positive').2.resolve_left (by
      have := least_grain first
      omega)
    calc (nearestEven (first / 2 ^ grain first) : Rat) * 2 ^ grain first
        ≤ (2 ^ 53 : Int) * 2 ^ grain first :=
          mul_le_mul_of_nonneg_right (Int.cast_le.2 upper) (zpow_pos two_pos _).le
      _ = (2 ^ 52 : Int) * 2 ^ (grain first + 1) := by
          rw [zpow_add_one₀ two_ne_zero]
          push_cast
          ring
      _ ≤ (2 ^ 52 : Int) * 2 ^ grain second :=
          mul_le_mul_of_nonneg_left (zpow_le_zpow_right₀ one_le_two apart) (by norm_num)
      _ ≤ nearestEven (second / 2 ^ grain second) * 2 ^ grain second :=
          mul_le_mul_of_nonneg_right (Int.cast_le.2 lower) width.le
  · rw [same]
    exact mul_le_mul_of_nonneg_right
      (Int.cast_le.2 (nearestEven_mono (div_le_div_of_nonneg_right above width.le))) width.le

/-- A greater value is not rounded to less. -/
theorem rounded_mono : Monotone rounded := by
  intro first second above
  rcases lt_or_ge 0 first with positive | firstNonpositive
  · exact rounded_le_rounded_of_pos positive above
  · rcases lt_or_ge second 0 with negative | secondNonnegative
    · have opposite := rounded_le_rounded_of_pos (neg_pos.2 negative) (neg_le_neg above)
      rw [rounded_neg, rounded_neg] at opposite
      exact neg_le_neg_iff.1 opposite
    · have below : 0 ≤ rounded (-first) := rounded_nonneg (neg_nonneg.2 firstNonpositive)
      rw [rounded_neg] at below
      exact (neg_nonneg.1 below).trans (rounded_nonneg secondNonnegative)

/-- An integer of at most 53 bits, scaled by no less than the least exponent, is not changed by
rounding. -/
theorem rounded_of_short {count exponent : Int} (short : |count| ≤ 2 ^ 53)
    (least : -1074 ≤ exponent) :
    rounded (count * 2 ^ exponent) = count * 2 ^ exponent := by
  rcases eq_or_ne count 0 with rfl | nonzero
  · rw [Int.cast_zero, zero_mul, rounded_zero]
  · have width : (0 : Rat) < 2 ^ exponent := zpow_pos two_pos _
    have magnitude : |(count : Rat) * 2 ^ exponent| = ((|count| : Int) : Rat) * 2 ^ exponent := by
      rw [abs_mul, abs_of_pos width, Int.cast_abs]
    have positive : 0 < |(count : Rat) * 2 ^ exponent| :=
      abs_pos.2 (mul_ne_zero (Int.cast_ne_zero.2 nonzero) width.ne')
    have upper : |(count : Rat) * 2 ^ exponent| ≤ 2 ^ (53 + exponent) := by
      rw [magnitude, zpow_add₀ two_ne_zero]
      exact mul_le_mul_of_nonneg_right (by exact_mod_cast short) width.le
    have coarse : grain |(count : Rat) * 2 ^ exponent| ≤ exponent + 1 := by
      rcases grain_least_or_le positive with bottom | filled
      · omega
      · have powers := (zpow_le_zpow_iff_right₀ one_lt_two).1 (filled.trans upper)
        omega
    rcases coarse.lt_or_eq with fine | even
    · exact rounded_of_coarse count rfl (Int.lt_add_one_iff.1 fine)
    · -- Only the power of two above 53 bits has a greater grain, and that is even.
      have filled := (grain_least_or_le positive).resolve_left (by omega)
      rw [even, magnitude, show exponent + 1 + 52 = 53 + exponent by omega,
        zpow_add₀ two_ne_zero, mul_le_mul_iff_left₀ width] at filled
      have whole : |count| = 2 ^ 53 := le_antisymm short (by exact_mod_cast filled)
      have halved : ∃ half : Int, count = half * 2 := by
        rcases (abs_eq (by norm_num)).1 whole with same | same
        · exact ⟨2 ^ 52, by rw [same]; norm_num⟩
        · exact ⟨-2 ^ 52, by rw [same]; norm_num⟩
      obtain ⟨half, same⟩ := halved
      apply rounded_of_coarse half _ even.le
      rw [same, zpow_add_one₀ two_ne_zero]
      push_cast
      ring

/-- What is storable is not changed by rounding. -/
theorem rounded_scaled {significand : Nat} {exponent : Int}
    (storable : Storable significand exponent) :
    rounded (scaled significand exponent) = scaled significand exponent := by
  have short : |(significand : Int)| ≤ 2 ^ 53 := by
    rw [abs_of_nonneg (Int.natCast_nonneg significand)]
    exact_mod_cast storable.short.le
  have kept := rounded_of_short short storable.least
  rwa [Int.cast_natCast, ← scaled_eq] at kept

/-- Integers of at most 53 bits are not changed by rounding. -/
theorem rounded_intCast {number : Int} (short : |number| ≤ 2 ^ 53) :
    rounded number = number := by
  have kept := rounded_of_short short (show -1074 ≤ 0 by norm_num)
  rwa [zpow_zero, mul_one] at kept

/-! ### What is too large -/

/-- The least magnitude that is too large to be stored. -/
def overflow : Rat := 2 ^ (1024 : Int)

theorem overflow_pos : 0 < overflow := zpow_pos two_pos _

/-- The point of the extended line that stands for a rounded value: what is too large to be
stored is infinite. -/
noncomputable def held (value : Rat) : EReal :=
  if overflow ≤ value then ⊤ else if value ≤ -overflow then ⊥ else ((value : ℝ) : EReal)

/-- The point of the extended line that a value is rounded to. -/
noncomputable def nearestPoint (value : Rat) : EReal := held (rounded value)

theorem held_mono : Monotone held := by
  intro first second above
  have positive := overflow_pos
  rw [held, held]
  split_ifs with _ _ _ high low
  · exact le_rfl
  · linarith
  · linarith
  · exact le_top
  · exact bot_le
  · exact bot_le
  · exact le_top
  · linarith
  · exact_mod_cast above

theorem held_neg (value : Rat) : held (-value) = -held value := by
  have positive := overflow_pos
  rw [held, held]
  split_ifs with _ _ _ high low
  · linarith
  · exact EReal.neg_bot.symm
  · linarith
  · exact EReal.neg_top.symm
  · linarith
  · linarith
  · linarith
  · linarith
  · push_cast
    rfl

/-- What is not too large stands for itself. -/
theorem held_of_lt {value : Rat} (small : |value| < overflow) :
    held value = ((value : ℝ) : EReal) := by
  obtain ⟨lower, upper⟩ := abs_lt.1 small
  rw [held, if_neg upper.not_ge, if_neg lower.not_ge]

/-- Different values stand for different points unless both are too large. -/
theorem held_lt_held {first second : Rat} (less : first < second)
    (small : |first| < overflow ∨ |second| < overflow) : held first < held second := by
  rcases small with small | small
  · rw [held_of_lt small, held]
    obtain ⟨lower, -⟩ := abs_lt.1 small
    split_ifs with high low
    · exact EReal.coe_lt_top _
    · linarith
    · exact_mod_cast less
  · rw [held_of_lt small, held]
    obtain ⟨-, upper⟩ := abs_lt.1 small
    split_ifs with high low
    · linarith
    · exact EReal.bot_lt_coe _
    · exact_mod_cast less

/-- A greater value is not rounded to a lesser point. -/
theorem nearestPoint_mono : Monotone nearestPoint := held_mono.comp rounded_mono

theorem nearestPoint_neg (value : Rat) : nearestPoint (-value) = -nearestPoint value := by
  rw [nearestPoint, nearestPoint, rounded_neg, held_neg]

/-- Integers of at most 53 bits stand for themselves. -/
theorem nearestPoint_intCast {number : Int} (short : |number| ≤ 2 ^ 53) :
    nearestPoint number = ((number : ℝ) : EReal) := by
  rw [nearestPoint, rounded_intCast short, held_of_lt]
  · norm_cast
  · rw [← Int.cast_abs, overflow]
    calc ((|number| : Int) : Rat) ≤ ((2 ^ 53 : Int) : Rat) := Int.cast_le.2 short
      _ = 2 ^ (53 : Int) := by norm_cast
      _ < 2 ^ (1024 : Int) := zpow_lt_zpow_right₀ one_lt_two (by norm_num)

end BenchFigures.Binary64
