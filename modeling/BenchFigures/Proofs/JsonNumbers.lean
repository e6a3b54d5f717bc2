import BenchFigures.Json.Number
import BenchFigures.Proofs.SignedNumbers

/-!
# What numbers in JSON give

A number in JSON denotes a decimal. The binary64 number it gives is the nearest one if the digits,
read as an integer, have at most 53 bits and the power of ten that scales them is at most the 22nd:
then both are stored as they are, and only their product or quotient is rounded.

In general the digits are rounded first, as many of them as fit 64 bits, and so is the power of
ten. Their product or quotient is rounded again. What is divided by a power of ten that is out of
range is divided in steps, and rounded after each.
-/

namespace BenchFigures.Json

open Binary64

namespace Number

/-! ### Decimals -/

variable (number : Number)

/-- The sign that is written. -/
def sign : Float.Model.UnpackedFloat.Sign := if number.negative then .negative else .positive

/-- The digits after the point. -/
def fractionDigits : List Char := number.fraction.getD []

/-- The exponent that is written, or zero. -/
def power : Int :=
  match number.exponent with
  | none => 0
  | some exponent =>
    let size : Int := Numeral.valueOf exponent.digits 0
    if exponent.negative then -size else size

/-- The decimal that is denoted, its sign left out. -/
def decimal : Decimal where
  significand := Numeral.valueOf (number.whole ++ number.fractionDigits) 0
  exponent := number.power - number.fractionDigits.length

/-- The most digits that fit 64 bits, together with what was read before them. -/
def fitting (before : Nat) (digits : List Char) : Nat :=
  Nat.findGreatest (fun count => Numeral.valueOf (digits.take count) before < significandLimit)
    digits.length

/-- The digits before the point that fit. -/
def fittingWhole : List Char := number.whole.take (fitting 0 number.whole)

/-- The digits after the point that fit as well. -/
def fittingFraction : List Char :=
  number.fractionDigits.take (fitting (Numeral.valueOf number.fittingWhole 0) number.fractionDigits)

/-- The decimal of the digits that fit. Digits before the point that do not fit count as zeros. -/
def cut : Decimal where
  significand := Numeral.valueOf (number.fittingWhole ++ number.fittingFraction) 0
  exponent := number.power + (number.whole.length - number.fittingWhole.length : Nat) -
    number.fittingFraction.length

/-- The exponent that is written fits 32 bits. -/
def ExponentFits : Prop := number.power.natAbs ≤ exponentLimit

instance : Decidable number.ExponentFits :=
  inferInstanceAs (Decidable (number.power.natAbs ≤ exponentLimit))

/-- Digits and power of ten are stored as they are. -/
structure IsShort : Prop where
  significand : number.decimal.significand ≤ 2 ^ 53
  exponent : number.decimal.exponent.natAbs ≤ 22
  fits : number.ExponentFits

end Number

/-- A size multiplied or divided by a power of ten, all of it rounded. Where the power is out of
range, the size is divided by the greatest power first. -/
def roundedShift (size : Rat) (power : Int) : Rat :=
  if 0 ≤ power then rounded (size * rounded (10 ^ power))
  else if -Number.largestPower ≤ power then rounded (size / rounded (10 ^ (-power)))
  else roundedShift (rounded (size / rounded (10 ^ Number.largestPower)))
    (power + Number.largestPower)
termination_by (-power).toNat
decreasing_by
  rw [Number.largestPower] at *
  omega

/-- A number gives a size. -/
inductive Number.Gives (number : Number) (size : Rat) : Prop
  /-- What is short gives the nearest number. -/
  | nearest (short : number.IsShort) (same : size = rounded number.decimal.value)
  /-- In general the digits that fit are rounded, then scaled and rounded again. -/
  | twice (fits : number.ExponentFits)
    (same : size = roundedShift (rounded number.cut.significand) number.cut.exponent)
  /-- An exponent that does not fit gives zero if it is negative or if all digits are zero. -/
  | vanished (beyond : ¬ number.ExponentFits)
    (small : number.power < 0 ∨ number.cut.significand = 0) (same : size = 0)

/-! ### Digits that fit -/

/-- Digits do not make a number less. -/
theorem le_valueOf (digits : List Char) (before : Nat) :
    before ≤ Numeral.valueOf digits before := by
  induction digits generalizing before with
  | nil => exact le_rfl
  | cons digit rest inductionHypothesis =>
    have more := inductionHypothesis (10 * before + (Numeral.digit? digit).getD 0)
    change before ≤ Numeral.valueOf rest (10 * before + (Numeral.digit? digit).getD 0)
    omega

theorem valueOf_append (first second : List Char) (before : Nat) :
    Numeral.valueOf (first ++ second) before =
      Numeral.valueOf second (Numeral.valueOf first before) :=
  List.foldl_append

namespace Number

/-- If all digits fit, no more do. -/
theorem fitting_eq_length {before : Nat} {digits : List Char}
    (small : Numeral.valueOf digits before < significandLimit) :
    fitting before digits = digits.length := by
  apply Nat.findGreatest_eq
  rwa [List.take_length]

/-- The digits that fit do fit. -/
theorem fitting_spec {before : Nat} (small : before < significandLimit) (digits : List Char) :
    Numeral.valueOf (digits.take (fitting before digits)) before < significandLimit :=
  Nat.findGreatest_spec
    (P := fun count => Numeral.valueOf (digits.take count) before < significandLimit)
    (Nat.zero_le _) small

/-- Digits fit one at a time. -/
theorem fitting_cons (before : Nat) (digit : Char) (rest : List Char) :
    fitting before (digit :: rest) =
      if significandLimit ≤ 10 * before + (Numeral.digit? digit).getD 0 then 0
      else fitting (10 * before + (Numeral.digit? digit).getD 0) rest + 1 := by
  have shifted (count : Nat) : Numeral.valueOf ((digit :: rest).take (count + 1)) before =
      Numeral.valueOf (rest.take count) (10 * before + (Numeral.digit? digit).getD 0) := rfl
  rw [fitting, Nat.findGreatest_eq_iff]
  split
  · next large =>
    refine ⟨Nat.zero_le _, fun nonzero => absurd rfl nonzero, ?_⟩
    intro count positive _
    obtain ⟨count, rfl⟩ := Nat.exists_eq_succ_of_ne_zero positive.ne'
    rw [shifted, not_lt]
    exact large.trans (le_valueOf _ _)
  · next small =>
    refine ⟨Nat.succ_le_succ (Nat.findGreatest_le _), fun _ => ?_, ?_⟩
    · rw [shifted]
      exact fitting_spec (not_le.1 small) rest
    · intro count beyond within
      obtain ⟨count, rfl⟩ := Nat.exists_eq_succ_of_ne_zero (Nat.zero_lt_of_lt beyond).ne'
      rw [shifted]
      exact Nat.findGreatest_is_greatest
        (P := fun taken => Numeral.valueOf (rest.take taken)
          (10 * before + (Numeral.digit? digit).getD 0) < significandLimit)
        (Nat.lt_of_succ_lt_succ beyond) (Nat.le_of_succ_le_succ within)

/-- The digits that are taken are those that fit. -/
theorem takeDigits_eq (before : Nat) (digits : List Char) :
    takeDigits before digits =
      (Numeral.valueOf (digits.take (fitting before digits)) before,
        (digits.take (fitting before digits)).length,
        digits.length - (digits.take (fitting before digits)).length) := by
  induction digits generalizing before with
  | nil => rfl
  | cons digit rest inductionHypothesis =>
    rw [takeDigits, fitting_cons]
    by_cases large : significandLimit ≤ 10 * before + (Numeral.digit? digit).getD 0
    · simp only [if_pos large]
      rfl
    · simp only [if_neg large, inductionHypothesis, List.take_succ_cons, List.length_cons,
        Nat.add_sub_add_right]
      rfl

end Number

/-! ### Powers of ten -/

/-- What is less than half the least positive number is rounded to zero. -/
theorem rounded_of_tiny {value : Rat} (nonnegative : 0 ≤ value) (tiny : value < 2 ^ (-1075 : Int)) :
    rounded value = 0 := by
  rcases nonnegative.eq_or_lt with rfl | positive
  · exact rounded_zero
  · have least : grain value = -1074 := by
      refine grain_eq positive le_rfl (tiny.trans ?_) (.inl rfl)
      exact zpow_lt_zpow_right₀ one_lt_two (by norm_num)
    have small : value / 2 ^ (-1074 : Int) < 1 / 2 := by
      rw [div_lt_iff₀ (zpow_pos two_pos _)]
      refine tiny.trans_eq ?_
      rw [show (-1075 : Int) = -1 + -1074 by norm_num, zpow_add₀ two_ne_zero]
      norm_num
    have grains : 0 ≤ value / 2 ^ (-1074 : Int) :=
      div_nonneg nonnegative (zpow_pos two_pos _).le
    have floors : ⌊value / 2 ^ (-1074 : Int)⌋ = 0 :=
      Int.floor_eq_zero_iff.2 ⟨grains, small.trans (by norm_num)⟩
    have fraction : Int.fract (value / 2 ^ (-1074 : Int)) < 1 / 2 := by
      rw [Int.fract, floors, Int.cast_zero, sub_zero]
      exact small
    rw [rounded_of_pos positive, least, nearestEven, if_pos fraction, floors, Int.cast_zero,
      zero_mul]

/-- A power of two within the range of exponents is not changed by rounding. -/
theorem rounded_two_zpow (exponent : Int) (least : -1074 ≤ exponent) :
    rounded (2 ^ exponent) = 2 ^ exponent := by
  have unit : |(1 : Int)| ≤ 2 ^ 53 := by norm_num
  have kept := rounded_of_short unit least
  rwa [Int.cast_one, one_mul] at kept

theorem one_le_rounded_power (power : Nat) : 1 ≤ rounded (10 ^ power) := by
  have kept := rounded_two_zpow 0 (by norm_num)
  rw [zpow_zero] at kept
  calc (1 : Rat) = rounded 1 := kept.symm
    _ ≤ rounded (10 ^ power) := rounded_mono (one_le_pow₀ (by norm_num))

/-- The powers of ten up to the greatest one are not too large. -/
theorem rounded_power_lt {power : Nat} (within : power ≤ Number.largestPower) :
    rounded (10 ^ power) < overflow := by
  have top : (10 : Rat) ^ Number.largestPower ≤ ((2 ^ 53 - 1 : Int) : Rat) * 2 ^ (971 : Int) := by
    have counted : 10 ^ 308 ≤ 9007199254740991 * 2 ^ 971 := by decide +kernel
    have casted := (Nat.cast_le (α := Rat)).2 counted
    rw [Nat.cast_pow, Nat.cast_mul, Nat.cast_pow] at casted
    rw [Number.largestPower, zpow_ofNat, show (2 ^ 53 - 1 : Int) = 9007199254740991 by norm_num]
    exact casted
  calc rounded (10 ^ power)
      ≤ rounded (((2 ^ 53 - 1 : Int) : Rat) * 2 ^ (971 : Int)) :=
        rounded_mono ((pow_le_pow_right₀ (by norm_num) within).trans top)
    _ = ((2 ^ 53 - 1 : Int) : Rat) * 2 ^ (971 : Int) :=
        rounded_of_short (by norm_num) (by norm_num)
    _ < 2 ^ (53 : Int) * 2 ^ (971 : Int) :=
        mul_lt_mul_of_pos_right (by norm_num) (zpow_pos two_pos _)
    _ = overflow := (zpow_add₀ two_ne_zero _ _).symm

/-- The greatest power of ten has more than a thousand bits. -/
theorem le_rounded_largest : (2 : Rat) ^ (1000 : Int) ≤ rounded (10 ^ Number.largestPower) := by
  rw [← rounded_two_zpow 1000 (by norm_num)]
  have counted : 2 ^ 1000 ≤ 10 ^ 308 := by decide +kernel
  apply rounded_mono
  rw [Number.largestPower, zpow_ofNat]
  exact_mod_cast counted

/-- A greater power of ten is too large. -/
theorem overflow_le_rounded_power {power : Nat} (beyond : Number.largestPower < power) :
    overflow ≤ rounded (10 ^ power) := by
  rw [overflow, ← rounded_two_zpow 1024 (by norm_num)]
  have counted : 2 ^ 1024 ≤ 10 ^ 309 := by decide +kernel
  apply rounded_mono
  calc (2 : Rat) ^ (1024 : Int) ≤ 10 ^ 309 := by
        rw [zpow_ofNat]
        exact_mod_cast counted
    _ ≤ 10 ^ power := pow_le_pow_right₀ (by norm_num) beyond

/-- A power of ten is stored as the nearest number. -/
theorem carries_power {power : Nat} (within : power ≤ Number.largestPower) :
    Carries (Float.ofScientific 1 false power) .positive (rounded (10 ^ power)) := by
  refine (isNearest_powerOfTen (within.trans ?_)).carries ?_ (rounded_power_lt within)
  · rw [Number.largestPower]
    norm_num
  · exact one_pos.trans_le (one_le_rounded_power power)

/-! ### Scaling -/

section Scaling

variable {size : Rat}

/-- A size is multiplied by a power of ten. -/
theorem roundedShift_natCast (power : Nat) :
    roundedShift size power = rounded (size * rounded (10 ^ power)) := by
  rw [roundedShift, if_pos (Int.natCast_nonneg power), zpow_natCast]

/-- A size is divided by a power of ten. -/
theorem roundedShift_neg {power : Nat} (positive : 0 < power)
    (within : power ≤ Number.largestPower) :
    roundedShift size (-power) = rounded (size / rounded (10 ^ power)) := by
  rw [roundedShift, if_neg (by omega), if_pos (by omega), neg_neg, zpow_natCast]

/-- A size is divided by the greatest power of ten before all others. -/
theorem roundedShift_beyond {power : Int} (beyond : power < -Number.largestPower) :
    roundedShift size power =
      roundedShift (rounded (size / rounded (10 ^ Number.largestPower)))
        (power + Number.largestPower) := by
  rw [roundedShift, if_neg (by rw [Number.largestPower] at beyond; omega),
    if_neg (not_le.2 beyond)]

/-- What is zero stays zero. -/
theorem roundedShift_zero (power : Int) (nothing : size = 0) : roundedShift size power = 0 := by
  fun_induction roundedShift size power with
  | case1 size power nonnegative => rw [nothing, zero_mul, rounded_zero]
  | case2 size power negative within => rw [nothing, zero_div, rounded_zero]
  | case3 size power negative beyond inductionHypothesis =>
    apply inductionHypothesis
    rw [nothing, zero_div, rounded_zero]

/-- Dividing by a power of ten makes nothing greater. -/
theorem rounded_div_lt {number : Float} (carries : Carries number .positive size) (power : Nat) :
    rounded (size / rounded (10 ^ power)) < overflow := by
  refine (rounded_mono (div_le_self carries.nonnegative (one_le_rounded_power power))).trans_lt ?_
  rw [carries.rounded_eq]
  exact carries.lt_overflow

/-- Each division by the greatest power of ten takes off a thousand bits. -/
theorem rounded_div_le {steps : Nat} (small : size ≤ 2 ^ (1000 * (steps + 1 : Int) - 1200)) :
    rounded (size / rounded (10 ^ Number.largestPower)) ≤ 2 ^ (1000 * (steps : Int) - 1200) := by
  have less : size / rounded (10 ^ Number.largestPower) ≤ 2 ^ (1000 * (steps : Int) - 1200) := by
    rw [div_le_iff₀ ((zpow_pos two_pos 1000).trans_le le_rounded_largest)]
    calc size ≤ 2 ^ (1000 * (steps : Int) - 1200) * 2 ^ (1000 : Int) := by
          rw [← zpow_add₀ two_ne_zero]
          exact small.trans_eq (by ring_nf)
      _ ≤ 2 ^ (1000 * (steps : Int) - 1200) * rounded (10 ^ Number.largestPower) :=
          mul_le_mul_of_nonneg_left le_rounded_largest (zpow_pos two_pos _).le
  refine (rounded_mono less).trans ?_
  cases steps with
  | zero =>
    rw [rounded_of_tiny (zpow_pos two_pos _).le (zpow_lt_zpow_right₀ one_lt_two (by norm_num))]
    exact (zpow_pos two_pos _).le
  | succ steps => exact (rounded_two_zpow _ (by push_cast; omega)).le

/-- A known number is the one that carries its size. -/
theorem some_eq_iff_carries {number result : Float} (carries : Carries number .positive size) :
    some number = some result ↔ Carries result .positive size := by
  constructor
  · rintro ⟨⟩
    exact carries
  · intro carries'
    rw [carries.unique carries']

/-- What is too large is carried by no number. -/
theorem none_eq_iff_carries {result : Float} (large : overflow ≤ size) :
    none = some result ↔ Carries result .positive size :=
  iff_of_false (Option.some_ne_none result).symm fun carries => large.not_gt carries.lt_overflow

section Steps

variable (steps : Nat) {number result : Float} {power : Int}

/-- Within the range of powers, scaling is one product or quotient. -/
theorem scale?_within (carries : Carries number .positive size)
    (within : power.natAbs ≤ Number.largestPower) :
    Number.scale? (steps + 1) number power = some result ↔
      Carries result .positive (roundedShift size power) := by
  rw [Number.scale?, if_pos within]
  rcases le_or_gt 0 power with nonnegative | negative
  · obtain ⟨power, rfl⟩ := Int.eq_ofNat_of_zero_le nonnegative
    rw [Int.natAbs_natCast] at within
    rw [Int.natAbs_natCast, if_pos nonnegative, roundedShift_natCast]
    have infinite := carries.isInf_mul_iff (carries_power within)
    by_cases large : overflow ≤ rounded (size * rounded (10 ^ power))
    · rw [if_pos (infinite.2 large)]
      exact none_eq_iff_carries large
    · rw [if_neg (mt infinite.1 large)]
      exact some_eq_iff_carries (carries.mul (carries_power within) (not_le.1 large))
  · obtain ⟨power, rfl⟩ := Int.exists_eq_neg_ofNat negative.le
    rw [Int.natAbs_neg, Int.natAbs_natCast] at within
    rw [Int.natAbs_neg, Int.natAbs_natCast, if_neg negative.not_ge,
      roundedShift_neg (by omega) within]
    exact some_eq_iff_carries (carries.div (carries_power within)
      (one_pos.trans_le (one_le_rounded_power power)).ne' (rounded_div_lt carries power))

/-- Zero is not scaled by what is out of range. -/
theorem scale?_zero (carries : Carries number .positive 0)
    (beyond : Number.largestPower < power.natAbs) :
    Number.scale? (steps + 1) number power = some result ↔
      Carries result .positive (roundedShift 0 power) := by
  rw [Number.scale?, if_neg (not_le.2 beyond), if_pos (carries.eq_zero_iff.2 rfl),
    roundedShift_zero power rfl]
  exact some_eq_iff_carries carries

/-- What is at least one is too large if it is multiplied by what is out of range. -/
theorem scale?_large (carries : Carries number .positive size) (unit : 1 ≤ size)
    (beyond : Number.largestPower < power) :
    Number.scale? (steps + 1) number power = some result ↔
      Carries result .positive (roundedShift size power) := by
  obtain ⟨power, rfl⟩ := Int.eq_ofNat_of_zero_le ((Int.natCast_nonneg _).trans beyond.le)
  have filled : ¬ (number == 0.0) = true := mt carries.eq_zero_iff.1 (one_pos.trans_le unit).ne'
  have out : Number.largestPower < power := by exact_mod_cast beyond
  rw [Number.scale?, Int.natAbs_natCast, if_neg (not_le.2 out), if_neg filled,
    if_pos (Int.natCast_nonneg power), roundedShift_natCast]
  have large := overflow_le_rounded_power out
  apply none_eq_iff_carries
  calc overflow = rounded overflow := (rounded_two_zpow 1024 (by norm_num)).symm
    _ ≤ rounded (size * rounded (10 ^ power)) :=
        rounded_mono (large.trans (le_mul_of_one_le_left (overflow_pos.le.trans large) unit))

/-- What is not zero is divided by the greatest power of ten before all others. -/
theorem scale?_beyond (carries : Carries number .positive size) (filled : size ≠ 0)
    (beyond : power < -Number.largestPower) :
    Number.scale? (steps + 1) number power =
      Number.scale? steps (number / Float.ofScientific 1 false Number.largestPower)
        (power + Number.largestPower) := by
  rw [Number.scale?, if_neg (by omega), if_neg (mt carries.eq_zero_iff.1 filled),
    if_neg (by omega)]

end Steps

/-- Scaling a size gives the rounded result unless it is too large. The steps suffice if each may
take off a thousand bits. -/
theorem scale?_eq_some_iff (steps : Nat) {number result : Float} {power : Int}
    (carries : Carries number .positive size) (small : size ≤ 2 ^ (1000 * (steps : Int) - 1200))
    (whole : 0 ≤ power → size = 0 ∨ 1 ≤ size) :
    Number.scale? (steps + 1) number power = some result ↔
      Carries result .positive (roundedShift size power) := by
  induction steps generalizing number size power with
  | zero =>
    have nothing : size = 0 := by
      rw [← carries.rounded_eq]
      refine rounded_of_tiny carries.nonnegative (small.trans_lt ?_)
      exact zpow_lt_zpow_right₀ one_lt_two (by norm_num)
    subst nothing
    by_cases within : power.natAbs ≤ Number.largestPower
    · exact scale?_within 0 carries within
    · exact scale?_zero 0 carries (not_le.1 within)
  | succ steps inductionHypothesis =>
    by_cases within : power.natAbs ≤ Number.largestPower
    · exact scale?_within _ carries within
    rcases eq_or_ne size 0 with rfl | filled
    · exact scale?_zero _ carries (not_le.1 within)
    by_cases nonnegative : 0 ≤ power
    · exact scale?_large _ carries ((whole nonnegative).resolve_left filled) (by omega)
    · have beyond : power < -Number.largestPower := by omega
      have divided := carries.div (carries_power le_rfl)
        (one_pos.trans_le (one_le_rounded_power _)).ne' (rounded_div_lt carries _)
      rw [scale?_beyond _ carries filled beyond, roundedShift_beyond beyond]
      exact inductionHypothesis divided (rounded_div_le (by exact_mod_cast small))
        fun positive => absurd positive (by omega)

end Scaling

namespace Number

variable {number : Number} {result : Float} {size : Rat}

/-! ### Short numbers -/

/-- The digits of what is short all fit. -/
theorem IsShort.cut_eq (short : number.IsShort) : number.cut = number.decimal := by
  have significand := short.significand
  have limit : 2 ^ 53 < significandLimit := by decide
  have whole : number.fittingWhole = number.whole := by
    rw [fittingWhole, fitting_eq_length, List.take_length]
    have less := le_valueOf number.fractionDigits (Numeral.valueOf number.whole 0)
    rw [← valueOf_append] at less
    exact (less.trans significand).trans_lt limit
  have fraction : number.fittingFraction = number.fractionDigits := by
    rw [fittingFraction, whole, fitting_eq_length, List.take_length]
    rw [← valueOf_append]
    exact significand.trans_lt limit
  rw [cut, decimal, whole, fraction, Nat.sub_self, Nat.cast_zero, add_zero]

/-- A power of ten up to the 22nd is not changed by rounding. -/
theorem rounded_power_of_short {power : Nat} (short : power ≤ 22) :
    rounded (10 ^ power) = 10 ^ power := by
  have fives : |(5 ^ power : Int)| ≤ 2 ^ 53 := by
    rw [abs_of_pos (by positivity)]
    calc (5 : Int) ^ power ≤ 5 ^ 22 := pow_le_pow_right₀ (by norm_num) short
      _ ≤ 2 ^ 53 := by norm_num
  have least : -1074 ≤ (power : Int) := by omega
  have kept := rounded_of_short fives least
  rwa [Int.cast_pow, Int.cast_ofNat, zpow_natCast, ← mul_pow,
    show (5 : Rat) * 2 = 10 by norm_num] at kept

/-- A decimal is its digits times a power of ten. -/
theorem decimal_value_eq (decimal : Decimal) :
    decimal.value = decimal.significand * 10 ^ decimal.exponent := by
  rw [Decimal.value, Decimal.powerOfTen]
  split
  · next nonnegative =>
    obtain ⟨power, same⟩ := Int.eq_ofNat_of_zero_le nonnegative
    rw [same, Int.toNat_natCast, zpow_natCast, Nat.pow_eq]
    push_cast
    rfl
  · next negative =>
    obtain ⟨power, same⟩ := Int.exists_eq_neg_ofNat (not_le.1 negative).le
    rw [same, neg_neg, Int.toNat_natCast, zpow_neg, zpow_natCast, Rat.mkRat_eq_div, Nat.pow_eq]
    push_cast
    rw [one_div]

/-- What is short is rounded only once. -/
theorem IsShort.roundedShift_eq (short : number.IsShort) :
    roundedShift (rounded number.cut.significand) number.cut.exponent =
      rounded number.decimal.value := by
  have kept : rounded (number.decimal.significand : Int) = (number.decimal.significand : Int) := by
    apply rounded_intCast
    rw [abs_of_nonneg (Int.natCast_nonneg _)]
    exact_mod_cast short.significand
  rw [Int.cast_natCast] at kept
  have small := short.exponent
  rw [short.cut_eq, kept, decimal_value_eq]
  rcases le_or_gt 0 number.decimal.exponent with nonnegative | negative
  · obtain ⟨power, same⟩ := Int.eq_ofNat_of_zero_le nonnegative
    rw [same, Int.natAbs_natCast] at small
    rw [same, roundedShift_natCast, rounded_power_of_short small, zpow_natCast]
  · obtain ⟨power, same⟩ := Int.exists_eq_neg_ofNat negative.le
    rw [same, Int.natAbs_neg, Int.natAbs_natCast] at small
    rw [same, roundedShift_neg (by omega) (by rw [largestPower]; omega),
      rounded_power_of_short small, zpow_neg, zpow_natCast, div_eq_mul_inv]

/-! ### Reading -/

/-- The digits that fit denote a number of 64 bits. -/
theorem cut_significand_lt (number : Number) : number.cut.significand < significandLimit := by
  have whole : Numeral.valueOf number.fittingWhole 0 < significandLimit :=
    fitting_spec (by decide) number.whole
  rw [cut, valueOf_append]
  exact fitting_spec whole number.fractionDigits

/-- The digits that fit are scaled if the exponent fits. Otherwise the number is zero or none. -/
theorem magnitude?_eq (number : Number) :
    number.magnitude? =
      if number.power.natAbs ≤ exponentLimit then
        scale? 8 (Float.ofNat number.cut.significand) number.cut.exponent
      else if number.power < 0 ∨ number.cut.significand = 0 then some 0.0 else none := by
  have whole : takeDigits 0 number.whole = (Numeral.valueOf number.fittingWhole 0,
      number.fittingWhole.length, number.whole.length - number.fittingWhole.length) :=
    takeDigits_eq 0 number.whole
  have fraction : takeDigits (Numeral.valueOf number.fittingWhole 0) (number.fraction.getD []) =
      (number.cut.significand, number.fittingFraction.length,
        number.fractionDigits.length - number.fittingFraction.length) := by
    rw [takeDigits_eq, cut, valueOf_append]
    rfl
  have shifted : number.cut.exponent = number.power +
      ((number.whole.length - number.fittingWhole.length : Nat) - number.fittingFraction.length) :=
    add_sub_assoc _ _ _
  rw [magnitude?, shifted, power]
  simp only [whole, fraction]
  generalize ((number.whole.length - number.fittingWhole.length : Nat) : Int) -
    number.fittingFraction.length = point
  rcases number.exponent with _ | ⟨negative, digits⟩
  · simp
  · by_cases fits : Numeral.valueOf digits 0 ≤ exponentLimit
    · cases negative with
      | false => simp [fits, not_lt.2 fits, add_comm]
      | true => simp [fits, not_lt.2 fits, sub_eq_neg_add]
    · have beyond := not_le.1 fits
      cases negative with
      | false => simp [fits, beyond, (Int.natCast_nonneg (Numeral.valueOf digits 0)).not_gt]
      | true => simp [fits, beyond, Nat.zero_lt_of_lt beyond]

/-- The rounded digits can be scaled in eight steps. -/
theorem carries_significand (number : Number) :
    Carries (Float.ofNat number.cut.significand) .positive (rounded number.cut.significand) ∧
      rounded number.cut.significand ≤ 2 ^ (1000 * ((7 : Nat) : Int) - 1200) ∧
      (rounded number.cut.significand = 0 ∨ 1 ≤ rounded number.cut.significand) := by
  have limit : (number.cut.significand : Rat) ≤ 2 ^ (64 : Int) := by
    have small := number.cut_significand_lt.le
    rw [significandLimit, Nat.pow_eq] at small
    rw [zpow_ofNat]
    exact_mod_cast small
  have bounded : rounded number.cut.significand ≤ 2 ^ (64 : Int) := by
    rw [← rounded_two_zpow 64 (by norm_num)]
    exact rounded_mono limit
  refine ⟨carries_ofNat (bounded.trans_lt ?_), bounded.trans ?_, ?_⟩
  · exact zpow_lt_zpow_right₀ one_lt_two (by norm_num)
  · exact zpow_le_zpow_right₀ one_le_two (by norm_num)
  · rcases Nat.eq_zero_or_pos number.cut.significand with nothing | positive
    · left
      rw [nothing, Nat.cast_zero, rounded_zero]
    · right
      have unit : rounded 1 = 1 := rounded_two_zpow 0 (by norm_num)
      rw [← unit]
      exact rounded_mono (by exact_mod_cast positive)

/-- A size is read exactly if the number gives it and it is not too large. -/
theorem magnitude?_eq_some_iff :
    number.magnitude? = some result ↔
      ∃ size, number.Gives size ∧ Carries result .positive size := by
  obtain ⟨carries, small, whole⟩ := number.carries_significand
  rw [magnitude?_eq]
  by_cases fits : number.power.natAbs ≤ exponentLimit
  · rw [if_pos fits, scale?_eq_some_iff 7 carries small fun _ => whole]
    constructor
    · intro read
      exact ⟨_, .twice fits rfl, read⟩
    · rintro ⟨size, gives, read⟩
      cases gives with
      | nearest short same => rwa [short.roundedShift_eq, ← same]
      | twice _ same => rwa [← same]
      | vanished beyond => exact absurd fits beyond
  · rw [if_neg fits]
    have zero : Carries 0.0 .positive 0 := .zero rfl
    constructor
    · intro read
      split at read
      · next nothing =>
        exact ⟨0, .vanished fits nothing rfl, (some_eq_iff_carries zero).1 read⟩
      · cases read
    · rintro ⟨size, gives, read⟩
      cases gives with
      | nearest short => exact absurd short.fits fits
      | twice within => exact absurd within fits
      | vanished _ nothing same =>
        rw [if_pos nothing]
        subst same
        exact (some_eq_iff_carries zero).2 read

/-- A number is read exactly if it gives the size, and it has the sign that is written. -/
theorem float?_eq_some_iff :
    number.float? = some result ↔ ∃ size, number.Gives size ∧ Carries result number.sign size := by
  rw [float?, Option.map_eq_some_iff, sign]
  cases number.negative with
  | false =>
    simp only [magnitude?_eq_some_iff, Bool.false_eq_true, if_false, exists_eq_right]
  | true =>
    simp only [magnitude?_eq_some_iff, if_true]
    constructor
    · rintro ⟨_, ⟨size, gives, carries⟩, rfl⟩
      exact ⟨size, gives, carries.neg⟩
    · rintro ⟨size, gives, carries⟩
      have opposite : Carries (-result) .positive size := carries.neg
      exact ⟨-result, ⟨size, gives, opposite⟩, opposite.neg.unique carries⟩

end Number

end BenchFigures.Json
