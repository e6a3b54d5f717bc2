import BenchFigures.Proofs.NearestEven

/-!
# Operations round correctly

Sums, differences, products and quotients of numbers with a value, and numbers of integers, are
the exact results, rounded: first to a whole number of grains, and to an infinity if that is too
large.

Bits are dropped one at a time. What is left of them, a bit for one half and a bit for anything
besides, is all that rounding to the nearest integer needs to know.
-/

namespace BenchFigures.Binary64

open Float.Model (Format UnpackedFloat totalExponent)
open Float.Model.UnpackedFloat

/-! ### Dropped bits -/

/-- A significand with what is left of the dropped bits, and the value they came from. -/
structure Tracks (extended : ExtendedMantissa) (value : Rat) : Prop where
  mantissa : ⌊value⌋ = extended.mantissa
  roundBit : extended.roundBit = true ↔ 1 / 2 ≤ Int.fract value
  stickyBit : extended.stickyBit = true ↔ Int.fract value ≠ 0 ∧ Int.fract value ≠ 1 / 2

/-- The value of a significand without any further bits is the significand. -/
theorem tracks_exact (significand : Nat) :
    Tracks (ExtendedMantissa.ofMantissaAndAccuracy significand .exact) significand where
  mantissa := Int.floor_natCast _
  roundBit := by
    rw [Int.fract_natCast]
    exact iff_of_false Bool.false_ne_true (by norm_num)
  stickyBit := by
    rw [Int.fract_natCast]
    exact iff_of_false Bool.false_ne_true fun different => different.1 rfl

/-- A divided significand keeps track of the remainder. -/
theorem tracks_quotient (dividend : Nat) {divisor : Nat} (positive : 0 < divisor) :
    Tracks (ExtendedMantissa.ofMantissaAndAccuracy (dividend / divisor)
      (accuracyOfFraction (dividend % divisor) divisor)) ((dividend : Rat) / divisor) := by
  have floors : ⌊(dividend : Rat) / divisor⌋ = (dividend / divisor : Nat) := by
    rw [Int.floor_div_natCast, Int.floor_natCast]
    rfl
  have fraction : Int.fract ((dividend : Rat) / divisor) = (dividend % divisor : Nat) / divisor :=
    Int.fract_div_natCast_eq_div_natCast_mod
  have casted : (0 : Rat) < divisor := Nat.cast_pos.2 positive
  rw [accuracyOfFraction]
  by_cases exact : dividend % divisor = 0
  · rw [exact, Nat.cast_zero, zero_div] at fraction
    rw [if_pos exact]
    refine ⟨floors, iff_of_false Bool.false_ne_true ?_, iff_of_false Bool.false_ne_true ?_⟩
    · rw [fraction]
      norm_num
    · rw [fraction]
      exact fun different => different.1 rfl
  · have nonzero : Int.fract ((dividend : Rat) / divisor) ≠ 0 := by
      rw [fraction]
      exact div_ne_zero (Nat.cast_ne_zero.2 exact) casted.ne'
    rw [if_neg exact]
    rcases lt_trichotomy (2 * (dividend % divisor)) divisor with less | half | more
    · have below : Int.fract ((dividend : Rat) / divisor) < 1 / 2 := by
        rw [fraction, div_lt_iff₀ casted, div_mul_eq_mul_div, lt_div_iff₀ two_pos, one_mul,
          mul_comm]
        exact_mod_cast less
      rw [compare_lt_iff_lt.2 less]
      exact ⟨floors, iff_of_false Bool.false_ne_true below.not_ge,
        iff_of_true rfl ⟨nonzero, below.ne⟩⟩
    · have same : Int.fract ((dividend : Rat) / divisor) = 1 / 2 := by
        rw [fraction, div_eq_iff casted.ne', div_mul_eq_mul_div, eq_div_iff two_ne_zero, one_mul,
          mul_comm]
        exact_mod_cast half
      rw [compare_eq_iff_eq.2 half]
      exact ⟨floors, iff_of_true rfl same.ge,
        iff_of_false Bool.false_ne_true fun different => different.2 same⟩
    · have above : 1 / 2 < Int.fract ((dividend : Rat) / divisor) := by
        rw [fraction, lt_div_iff₀ casted, div_mul_eq_mul_div, div_lt_iff₀ two_pos, one_mul,
          mul_comm]
        exact_mod_cast more
      rw [compare_gt_iff_gt.2 more]
      exact ⟨floors, iff_of_true rfl above.le, iff_of_true rfl ⟨nonzero, above.ne'⟩⟩

/-- The last bit of a significand becomes the bit for one half. -/
theorem Tracks.fract_half {extended : ExtendedMantissa} {value : Rat}
    (tracks : Tracks extended value) :
    ⌊value / 2⌋ = (extended.mantissa / 2 : Nat) ∧
      Int.fract (value / 2) = (((extended.mantissa % 2 : Nat) : Rat) + Int.fract value) / 2 := by
  have halves : ⌊value / 2⌋ = (extended.mantissa / 2 : Nat) := by
    have divided := Int.floor_div_natCast value 2
    rw [tracks.mantissa] at divided
    exact_mod_cast divided
  have split : (extended.mantissa : Rat) =
      2 * (extended.mantissa / 2 : Nat) + (extended.mantissa % 2 : Nat) := by
    exact_mod_cast (Nat.div_add_mod _ _).symm
  have whole := Int.floor_add_fract value
  have half := Int.floor_add_fract (value / 2)
  rw [tracks.mantissa, Int.cast_natCast] at whole
  rw [halves, Int.cast_natCast] at half
  exact ⟨halves, by linarith⟩

/-- One of the two bits is set unless the value is an integer. -/
theorem Tracks.dropped_iff {extended : ExtendedMantissa} {value : Rat}
    (tracks : Tracks extended value) :
    (extended.roundBit || extended.stickyBit) = true ↔ Int.fract value ≠ 0 := by
  rw [Bool.or_eq_true, tracks.roundBit, tracks.stickyBit]
  constructor
  · rintro (half | ⟨nonzero, -⟩)
    · intro zero
      linarith
    · exact nonzero
  · intro nonzero
    by_cases half : Int.fract value = 1 / 2
    · exact .inl half.ge
    · exact .inr ⟨nonzero, half⟩

/-- Dropping a bit halves the value. -/
theorem Tracks.shiftRightOne {extended : ExtendedMantissa} {value : Rat}
    (tracks : Tracks extended value) :
    Tracks extended.shiftRightOne (value / 2) := by
  obtain ⟨halves, fraction⟩ := tracks.fract_half
  have nonnegative := Int.fract_nonneg value
  have less := Int.fract_lt_one value
  refine ⟨halves, ?_, ?_⟩
  · rw [fraction]
    change (extended.mantissa % 2 != 0) = true ↔ _
    rcases Nat.mod_two_eq_zero_or_one extended.mantissa with even | odd
    · rw [even]
      refine iff_of_false Bool.false_ne_true (not_le.2 ?_)
      push_cast
      linarith
    · rw [odd]
      refine iff_of_true rfl ?_
      push_cast
      linarith
  · change (extended.roundBit || extended.stickyBit) = true ↔ _
    rw [tracks.dropped_iff, fraction, ← not_or, not_iff_not]
    -- An even significand leaves zero or less than one half, an odd one a half or more.
    rcases Nat.mod_two_eq_zero_or_one extended.mantissa with even | odd
    · rw [even]
      push_cast
      constructor
      · intro zero
        left
        linarith
      · rintro (zero | half) <;> linarith
    · rw [odd]
      push_cast
      constructor
      · intro zero
        right
        linarith
      · rintro (zero | half) <;> linarith

/-- Dropping bits divides the value by a power of two. -/
theorem Tracks.shiftRight {extended : ExtendedMantissa} {value : Rat}
    (tracks : Tracks extended value) (distance : Nat) :
    Tracks (extended >>> distance) (value / 2 ^ distance) := by
  induction distance with
  | zero =>
    rw [pow_zero, div_one]
    exact tracks
  | succ distance inductionHypothesis =>
    rw [pow_succ, ← div_div]
    exact inductionHypothesis.shiftRightOne

/-- What is left of the dropped bits is enough to round to the nearest integer. -/
theorem Tracks.roundedMantissa {extended : ExtendedMantissa} {value : Rat}
    (tracks : Tracks extended value) :
    nearestEven value = extended.roundedMantissa := by
  obtain ⟨significand, half, further⟩ := extended
  obtain ⟨floors, round, sticky⟩ := tracks
  simp only at floors round sticky
  rw [nearestEven, floors]
  cases half with
  | false =>
    have below : Int.fract value < 1 / 2 :=
      not_le.1 fun reached => Bool.false_ne_true (round.2 reached)
    rw [if_pos below]
    cases further <;> rfl
  | true =>
    have reached := round.1 rfl
    rw [if_neg reached.not_gt]
    cases further with
    | false =>
      have tie : Int.fract value = 1 / 2 := by
        by_contra different
        have nonzero : Int.fract value ≠ 0 := by
          intro zero
          linarith
        exact Bool.false_ne_true (sticky.2 ⟨nonzero, different⟩)
      rw [if_neg (by rw [tie]; exact lt_irrefl _)]
      change _ = ((significand + significand % 2 : Nat) : Int)
      push_cast
      rfl
    | true =>
      have above := lt_of_le_of_ne reached (sticky.1 rfl).2.symm
      rw [if_pos above]
      rfl

/-! ### Rounded parts -/

/-- Parts that are a magnitude, rounded. -/
inductive Rounds (sign : Sign) (magnitude : Rat) : UnpackedFloat → Prop
  | zero : rounded magnitude = 0 → Rounds sign magnitude (.zero sign)
  | finite {significand : Nat} {exponent : Int} (positive : 0 < significand) :
      Storable significand exponent → rounded magnitude = scaled significand exponent →
      Rounds sign magnitude (.finite sign significand exponent positive)

/-- The exponent that rounding aims at is the grain of the magnitude. -/
theorem targetExponent_eq_grain {significand : Nat} {exponent : Int} {value : Rat}
    (positive : 0 < value) (floors : ⌊value⌋ = significand)
    (long : 2 ^ 52 ≤ significand ∨ exponent ≤ -1074) :
    Format.binary64.targetExponent (totalExponent significand exponent) =
      grain (value * 2 ^ exponent) := by
  have width : (0 : Rat) < 2 ^ exponent := zpow_pos two_pos _
  have below : (significand : Rat) ≤ value := by
    have floor := Int.floor_le value
    rwa [floors, Int.cast_natCast] at floor
  have above : value < significand + 1 := by
    have floor := Int.lt_floor_add_one value
    rwa [floors, Int.cast_natCast] at floor
  have bits : significand + 1 ≤ 2 ^ (significand.log2 + 1) := Nat.lt_log2_self
  rw [targetExponent_eq, totalExponent]
  symm
  apply grain_eq (mul_pos positive width)
  · omega
  · calc value * 2 ^ exponent < 2 ^ (significand.log2 + 1) * 2 ^ exponent :=
          mul_lt_mul_of_pos_right (above.trans_le (by exact_mod_cast bits)) width
      _ = 2 ^ (((significand.log2 + 1 : Nat) : Int) + exponent) := by
          rw [zpow_add₀ two_ne_zero, zpow_natCast]
      _ ≤ _ := zpow_le_zpow_right₀ one_le_two (by omega)
  · rcases Nat.eq_zero_or_pos significand with rfl | nonzero
    · left
      rw [Nat.log2_zero]
      omega
    · rw [or_iff_not_imp_left]
      intro normal
      have filled : 2 ^ significand.log2 ≤ significand := Nat.log2_self_le nonzero.ne'
      calc (2 : Rat) ^ (max (((significand.log2 + 1 : Nat) : Int) + exponent - 53) (-1074) + 52)
          ≤ 2 ^ ((significand.log2 : Int) + exponent) :=
            zpow_le_zpow_right₀ one_le_two (by omega)
        _ = 2 ^ significand.log2 * 2 ^ exponent := by rw [zpow_add₀ two_ne_zero, zpow_natCast]
        _ ≤ value * 2 ^ exponent :=
            mul_le_mul_of_nonneg_right ((by exact_mod_cast filled : _ ≤ _).trans below) width.le

/-- Shifting to the target drops bits until the last one left is a grain. The significand must
have 53 bits or the least exponent to begin with. -/
theorem shiftToTargetExponent_eq {significand : Nat} {exponent : Int} (accuracy : Accuracy)
    {value : Rat} (positive : 0 < value) (floors : ⌊value⌋ = significand)
    (long : 2 ^ 52 ≤ significand ∨ exponent ≤ -1074) :
    ∃ distance : Nat, grain (value * 2 ^ exponent) = distance + exponent ∧
      shiftToTargetExponent Format.binary64 significand exponent accuracy =
        (ExtendedMantissa.ofMantissaAndAccuracy significand accuracy >>> distance,
          grain (value * 2 ^ exponent)) := by
  have target := targetExponent_eq_grain positive floors long
  have reached : exponent ≤ grain (value * 2 ^ exponent) := by
    rw [← target, targetExponent_eq, totalExponent]
    rcases long with filled | bottom
    · have logarithm : 52 ≤ significand.log2 := (Nat.le_log2 (by omega)).2 filled
      omega
    · omega
  obtain ⟨distance, apart⟩ := Int.eq_ofNat_of_zero_le (sub_nonneg.2 reached)
  have moved : exponent + distance = grain (value * 2 ^ exponent) := by omega
  refine ⟨distance, by omega, ?_⟩
  simp only [shiftToTargetExponent, shiftToExponent, target, apart, Int.toNat_natCast, moved]

/-- A significand with what is left of the dropped bits is rounded as the value it came from. It
must have 53 bits or the least exponent to begin with. -/
theorem roundWithAccuracy_rounds (sign : Sign) {significand : Nat} {exponent : Int}
    {accuracy : Accuracy} {value : Rat} (positive : 0 < value)
    (tracks : Tracks (ExtendedMantissa.ofMantissaAndAccuracy significand accuracy) value)
    (long : 2 ^ 52 ≤ significand ∨ exponent ≤ -1074) :
    Rounds sign (value * 2 ^ exponent)
      (roundWithAccuracy Format.binary64 sign significand exponent accuracy) := by
  have floors : ⌊value⌋ = significand := by
    rw [tracks.mantissa]
    rcases accuracy with _ | _ | _ | _ <;> rfl
  have magnitudePositive : 0 < value * 2 ^ exponent := mul_pos positive (zpow_pos two_pos _)
  obtain ⟨distance, moved, first⟩ := shiftToTargetExponent_eq accuracy positive floors long
  have counted : value * 2 ^ exponent / 2 ^ grain (value * 2 ^ exponent) =
      value / 2 ^ distance := by
    rw [moved, zpow_add₀ two_ne_zero, zpow_natCast,
      mul_div_mul_right _ _ (zpow_ne_zero _ two_ne_zero)]
  obtain ⟨grains, whole⟩ : ∃ grains : Nat, (ExtendedMantissa.ofMantissaAndAccuracy significand
    accuracy >>> distance).roundedMantissa = grains := ⟨_, rfl⟩
  obtain ⟨upper, lower⟩ := nearestEven_grains magnitudePositive
  have result := rounded_of_pos magnitudePositive
  rw [counted, (tracks.shiftRight distance).roundedMantissa, whole] at upper lower result
  rw [Int.cast_natCast, ← scaled_eq] at result
  have least := least_grain (value * 2 ^ exponent)
  have kept (number : Nat) : (ExtendedMantissa.ofMantissaAndAccuracy number .exact).mantissa =
    number := rfl
  simp only [roundWithAccuracy, first, whole]
  rcases (show grains ≤ 2 ^ 53 by omega).lt_or_eq with short | overlong
  · have storable : Storable grains (grain (value * 2 ^ exponent)) := ⟨least, short, by omega⟩
    simp only [shift_storable storable, kept]
    split
    · rename_i nothing
      apply Rounds.zero
      rw [result, nothing, scaled_eq, Nat.cast_zero, zero_mul]
    · exact Rounds.finite _ storable result
  · -- A carry makes one bit too many, and the last one is then zero.
    simp only [overlong, shift_overlong least, kept]
    rw [dif_neg (by decide)]
    apply Rounds.finite _ ⟨by omega, by decide, .inr le_rfl⟩
    rw [result, overlong, scaled_eq, scaled_eq, zpow_add_one₀ two_ne_zero]
    push_cast
    ring

/-- A significand of any length is rounded as the magnitude it stands for. -/
theorem round_rounds (sign : Sign) {significand : Nat} (exponent : Int)
    (positive : 0 < significand) :
    Rounds sign (scaled significand exponent)
      (UnpackedFloat.round Format.binary64 sign significand exponent) := by
  have filled : 2 ^ significand.log2 ≤ significand := Nat.log2_self_le positive.ne'
  obtain ⟨distance, apart⟩ : ∃ distance : Nat, distance = (exponent -
      Format.binary64.targetExponent (totalExponent significand exponent)).toNat := ⟨_, rfl⟩
  have target := targetExponent_eq (totalExponent significand exponent)
  rw [totalExponent] at target
  have long : 2 ^ 52 ≤ significand * 2 ^ distance ∨ exponent - distance ≤ -1074 := by
    rw [totalExponent] at apart
    by_cases bottom : exponent - distance ≤ -1074
    · exact .inr bottom
    · left
      calc 2 ^ 52 ≤ 2 ^ (significand.log2 + distance) :=
            Nat.pow_le_pow_right (by decide) (by omega)
        _ = 2 ^ significand.log2 * 2 ^ distance := Nat.pow_add _ _ _
        _ ≤ significand * 2 ^ distance := Nat.mul_le_mul_right _ filled
  have same : scaled significand exponent =
      ((significand * 2 ^ distance : Nat) : Rat) * 2 ^ (exponent - distance) := by
    rw [scaled_eq, zpow_sub₀ two_ne_zero, zpow_natCast]
    push_cast
    field_simp
  rw [same]
  simp only [UnpackedFloat.round, decreaseExponent, ← apart, Nat.shiftLeft_eq]
  exact roundWithAccuracy_rounds sign
    (Nat.cast_pos.2 (Nat.mul_pos positive (Nat.two_pow_pos distance))) (tracks_exact _) long

/-! ### Values and signs -/

/-- A magnitude with a sign. -/
def signed : Sign → Rat → Rat
  | .negative, magnitude => -magnitude
  | .positive, magnitude => magnitude

theorem signed_zero (sign : Sign) : signed sign 0 = 0 := by
  cases sign
  · exact neg_zero
  · rfl

theorem signed_neg (sign : Sign) (magnitude : Rat) :
    signed (-sign) magnitude = -signed sign magnitude := by
  cases sign
  · exact (neg_neg magnitude).symm
  · rfl

theorem signed_mul (first second : Sign) (magnitude magnitude' : Rat) :
    signed (first * second) (magnitude * magnitude') =
      signed first magnitude * signed second magnitude' := by
  cases first <;> cases second
  · exact (neg_mul_neg magnitude magnitude').symm
  · exact (neg_mul magnitude magnitude').symm
  · exact (mul_neg magnitude magnitude').symm
  · rfl

theorem signed_div (first second : Sign) (magnitude magnitude' : Rat) :
    signed (first / second) (magnitude / magnitude') =
      signed first magnitude / signed second magnitude' := by
  cases first <;> cases second
  · exact (neg_div_neg_eq magnitude magnitude').symm
  · exact (neg_div magnitude' magnitude).symm
  · exact (div_neg magnitude).symm
  · rfl

theorem signed_natCast (sign : Sign) (number : Nat) :
    signed sign number = (sign.apply number : Int) := by
  cases sign
  · exact (Int.cast_neg (number : Int)).symm
  · rfl

theorem abs_signed (sign : Sign) (magnitude : Rat) : |signed sign magnitude| = |magnitude| := by
  cases sign
  · exact abs_neg magnitude
  · rfl

theorem rounded_signed (sign : Sign) (magnitude : Rat) :
    rounded (signed sign magnitude) = signed sign (rounded magnitude) := by
  cases sign
  · exact rounded_neg magnitude
  · rfl

/-- A number with a value is zero or has a sign, a significand and an exponent. -/
theorem parts_of_value? {number : Float} {value : Rat} (valued : value? number = some value) :
    (∃ sign, unpack number = .zero sign ∧ value = 0) ∨
      ∃ sign significand exponent positive,
        unpack number = .finite sign significand exponent positive ∧
          value = signed sign (scaled significand exponent) := by
  rw [value?] at valued
  split at valued
  · exact absurd valued.symm (Option.some_ne_none _)
  · exact absurd valued.symm (Option.some_ne_none _)
  · rename_i sign parts
    exact .inl ⟨sign, parts, (Option.some.inj valued).symm⟩
  · rename_i parts
    exact .inr ⟨_, _, _, _, parts, (Option.some.inj valued).symm⟩
  · rename_i parts
    exact .inr ⟨_, _, _, _, parts, (Option.some.inj valued).symm⟩

/-- The value of finite parts. -/
theorem value?_of_finite {number : Float} {sign : Sign} {significand : Nat} {exponent : Int}
    {positive : 0 < significand}
    (parts : unpack number = .finite sign significand exponent positive) :
    value? number = some (signed sign (scaled significand exponent)) := by
  rw [value?, parts]
  cases sign <;> rfl

/-- A number has this sign and this magnitude. -/
inductive Carries (number : Float) (sign : Sign) : Rat → Prop
  | zero (parts : unpack number = .zero sign) : Carries number sign 0
  | finite {significand : Nat} {exponent : Int} (positive : 0 < significand)
    (parts : unpack number = .finite sign significand exponent positive) :
    Carries number sign (scaled significand exponent)

/-- A number with a value has a sign and a magnitude. -/
theorem exists_carries {number : Float} {value : Rat} (valued : value? number = some value) :
    ∃ sign magnitude, Carries number sign magnitude ∧ value = signed sign magnitude := by
  rcases parts_of_value? valued with ⟨sign, parts, rfl⟩ | ⟨sign, _, _, positive, parts, rfl⟩
  · exact ⟨sign, 0, .zero parts, (signed_zero sign).symm⟩
  · exact ⟨sign, _, .finite positive parts, rfl⟩

/-! ### Nearest results -/

/-- A result is the number nearest to an exact value. -/
structure IsNearest (result : Float) (exact : Rat) : Prop where
  isNumber : result.isNaN = false
  extended_eq : extended result = nearestPoint exact

/-- What is storable is too large exactly if its exponent is too great to be stored. -/
theorem Storable.scaled_lt_overflow_iff {significand : Nat} {exponent : Int}
    (storable : Storable significand exponent) :
    scaled significand exponent < overflow ↔ exponent ≤ 971 := by
  have width : (0 : Rat) < 2 ^ exponent := zpow_pos two_pos _
  rw [scaled_eq, overflow]
  constructor
  · intro small
    by_contra great
    have filled := storable.filled.resolve_left (by omega)
    have reached : (2 : Rat) ^ (1024 : Int) ≤ significand * 2 ^ exponent :=
      calc (2 : Rat) ^ (1024 : Int) ≤ 2 ^ (52 + exponent) :=
            zpow_le_zpow_right₀ one_le_two (by omega)
        _ = (2 ^ 52 : Nat) * 2 ^ exponent := by
            rw [zpow_add₀ two_ne_zero]
            norm_cast
        _ ≤ significand * 2 ^ exponent :=
            mul_le_mul_of_nonneg_right (Nat.cast_le.2 filled) width.le
    exact reached.not_gt small
  · intro fits
    calc (significand : Rat) * 2 ^ exponent < (2 ^ 53 : Nat) * 2 ^ exponent :=
          mul_lt_mul_of_pos_right (Nat.cast_lt.2 storable.short) width
      _ = 2 ^ (53 + exponent) := by
          rw [zpow_add₀ two_ne_zero]
          norm_cast
      _ ≤ 2 ^ (1024 : Int) := zpow_le_zpow_right₀ one_le_two (by omega)

/-- A result whose parts are zero is the number nearest to zero. -/
theorem isNearest_of_zero {result : Float} {sign : Sign} (parts : unpack result = .zero sign) :
    IsNearest result 0 where
  isNumber := by
    rw [← unpack_ne_notANumber_iff, parts]
    exact UnpackedFloat.noConfusion
  extended_eq := by
    have value : value? result = some 0 := by rw [value?, parts]
    rw [extended_of_value? value, nearestPoint, rounded_zero, held_of_lt]
    rw [abs_zero]
    exact overflow_pos

theorem stored_zero (sign : Sign) : stored (.zero sign) = .zero sign := by
  cases sign <;> rfl

/-- A result that is stored as zero is the number nearest to zero. -/
theorem isNearest_of_stored_zero {result : Float} {sign : Sign}
    (computed : unpack result = stored (.zero sign)) : IsNearest result 0 := by
  rw [stored_zero] at computed
  exact isNearest_of_zero computed

/-- Infinite parts stand for an end of the line. -/
theorem extended_of_infinity {number : Float} {sign : Sign}
    (parts : unpack number = .infinity sign) :
    number.isNaN = false ∧
      extended number = match sign with | .negative => ⊥ | .positive => ⊤ := by
  constructor
  · rw [← unpack_ne_notANumber_iff, parts]
    exact UnpackedFloat.noConfusion
  · simp only [extended, value?, isNegative, parts]
    cases sign <;> rfl

/-- A rounded magnitude with a sign is stored as the number nearest to it. -/
theorem isNearest_of_rounds {result : Float} {sign : Sign} {magnitude : Rat}
    {parts : UnpackedFloat} (computed : unpack result = stored parts)
    (rounds : Rounds sign magnitude parts) : IsNearest result (signed sign magnitude) := by
  cases rounds with
  | zero nothing =>
    obtain ⟨isNumber, same⟩ := isNearest_of_stored_zero computed
    refine ⟨isNumber, ?_⟩
    rw [same, nearestPoint, nearestPoint, rounded_signed, nothing, rounded_zero, signed_zero]
  | finite positive storable result =>
    rename_i significand exponent
    rw [stored_finite storable positive sign] at computed
    by_cases fits : exponent ≤ 971
    · rw [if_pos fits] at computed
      refine ⟨isNaN_eq_false (by rw [isFinite, value?_of_finite computed]; rfl), ?_⟩
      rw [extended_of_value? (value?_of_finite computed), nearestPoint, rounded_signed, result,
        held_of_lt]
      rw [abs_signed, abs_of_pos (scaled_pos positive exponent)]
      exact storable.scaled_lt_overflow_iff.2 fits
    · have large := not_lt.1 (mt storable.scaled_lt_overflow_iff.1 fits)
      rw [if_neg fits] at computed
      obtain ⟨isNumber, endPoint⟩ := extended_of_infinity computed
      refine ⟨isNumber, ?_⟩
      rw [endPoint, nearestPoint, rounded_signed, result]
      cases sign with
      | negative =>
        change ⊥ = held (-scaled significand exponent)
        rw [held_neg, held, if_pos large, EReal.neg_top]
      | positive =>
        change ⊤ = held (scaled significand exponent)
        rw [held, if_pos large]

/-- A number with a value is the one nearest to it. -/
theorem isNearest_of_value? {number : Float} {value : Rat} (valued : value? number = some value) :
    IsNearest number value := by
  rcases parts_of_value? valued with ⟨sign, parts, rfl⟩ | ⟨sign, _, _, positive, parts, rfl⟩
  · exact isNearest_of_zero parts
  · have storable := (storable_of_unpack parts).1
    apply isNearest_of_rounds (parts.trans (stored_unpack_finite parts).symm)
    exact Rounds.finite positive storable (rounded_scaled storable)

/-- If the number nearest to an exact value has a value, that is the exact one, rounded. -/
theorem IsNearest.value_eq {result : Float} {exact value : Rat} (nearest : IsNearest result exact)
    (valued : value? result = some value) : value = rounded exact := by
  have same := nearest.extended_eq
  rw [extended_of_value? valued, nearestPoint, held] at same
  split at same
  · exact absurd same (EReal.coe_ne_top _)
  · split at same
    · exact absurd same (EReal.coe_ne_bot _)
    · exact Rat.cast_injective (EReal.coe_injective same)

/-- Rounding keeps the value of a number. -/
theorem rounded_of_value? {number : Float} {value : Rat} (valued : value? number = some value) :
    rounded value = value :=
  ((isNearest_of_value? valued).value_eq valued).symm

/-- Numbers nearest to exact values are ordered as these are. -/
theorem IsNearest.le {first second : Float} {exact exact' : Rat} (nearest : IsNearest first exact)
    (nearest' : IsNearest second exact') (above : exact ≤ exact') : first ≤ second := by
  rw [le_iff_extended nearest.isNumber nearest'.isNumber, nearest.extended_eq,
    nearest'.extended_eq]
  exact nearestPoint_mono above

/-- Numbers nearest to values that are rounded to different ones are ordered as these are, unless
both are too large. -/
theorem IsNearest.lt {first second : Float} {exact exact' : Rat} (nearest : IsNearest first exact)
    (nearest' : IsNearest second exact') (less : rounded exact < rounded exact')
    (small : |rounded exact| < overflow ∨ |rounded exact'| < overflow) : first < second := by
  rw [lt_iff_extended nearest.isNumber nearest'.isNumber, nearest.extended_eq,
    nearest'.extended_eq]
  exact held_lt_held less small

/-- A value is not too large. -/
theorem abs_lt_overflow {number : Float} {value : Rat} (valued : value? number = some value) :
    |value| < overflow := by
  rcases parts_of_value? valued with ⟨sign, parts, rfl⟩ | ⟨sign, _, exponent, positive, parts, rfl⟩
  · rw [abs_zero]
    exact overflow_pos
  · obtain ⟨storable, fits⟩ := storable_of_unpack parts
    rw [abs_signed, abs_of_pos (scaled_pos positive exponent)]
    exact storable.scaled_lt_overflow_iff.2 fits

/-- Negating a number goes to the opposite point. -/
theorem extended_neg {number : Float} (isNumber : number.isNaN = false) :
    (Float.neg number).isNaN = false ∧ extended (Float.neg number) = -extended number := by
  have negated : unpack (Float.neg number) = stored (unpack number).neg := rfl
  rw [← unpack_ne_notANumber_iff] at isNumber ⊢
  cases parts : unpack number with
  | notANumber => exact absurd parts isNumber
  | infinity sign =>
    rw [parts, UnpackedFloat.neg, stored_infinity] at negated
    refine ⟨by rw [negated]; exact UnpackedFloat.noConfusion, ?_⟩
    simp only [extended, value?, isNegative, parts, negated]
    cases sign
    · exact EReal.neg_bot.symm
    · exact EReal.neg_top.symm
  | zero sign =>
    rw [parts, UnpackedFloat.neg, stored_zero] at negated
    refine ⟨by rw [negated]; exact UnpackedFloat.noConfusion, ?_⟩
    simp only [extended, value?, parts, negated]
    rw [Rat.cast_zero, EReal.coe_zero, neg_zero]
  | finite sign significand exponent positive =>
    obtain ⟨storable, fits⟩ := storable_of_unpack parts
    rw [parts, UnpackedFloat.neg, stored_finite storable, if_pos fits] at negated
    refine ⟨by rw [negated]; exact UnpackedFloat.noConfusion, ?_⟩
    rw [extended_of_value? (value?_of_finite parts), extended_of_value? (value?_of_finite negated),
      signed_neg]
    exact_mod_cast rfl

/-- Negation is exact. -/
theorem IsNearest.neg {result : Float} {exact : Rat} (nearest : IsNearest result exact) :
    IsNearest (Float.neg result) (-exact) := by
  obtain ⟨isNumber, same⟩ := extended_neg nearest.isNumber
  exact ⟨isNumber, by rw [same, nearest.extended_eq, nearestPoint_neg]⟩

/-- A sum of aligned significands is stored as the number nearest to it. -/
theorem isNearest_of_normalize {result : Float} {sum exponent : Int}
    (computed : unpack result =
      stored (UnpackedFloat.normalize Format.binary64 sum exponent .positive)) :
    IsNearest result (sum * 2 ^ exponent) := by
  rcases normalize_cases sum exponent with ⟨rfl, zero⟩ | ⟨sign, magnitude, nonzero, rfl, rounds⟩
  · rw [zero] at computed
    rw [Int.cast_zero, zero_mul]
    exact isNearest_of_zero computed
  · rw [rounds] at computed
    have same : ((sign.apply magnitude : Int) : Rat) * 2 ^ exponent =
        signed sign (scaled magnitude exponent) := by
      rw [← signed_natCast, scaled_eq]
      cases sign
      · exact neg_mul _ _
      · rfl
    rw [same]
    exact isNearest_of_rounds computed (round_rounds sign exponent nonzero)

/-! ### Operations -/

section Operations

variable {first second : Float} {value value' : Rat}

/-- A significand with a sign, aligned to a lesser exponent, keeps its value. -/
theorem signed_aligned (sign : Sign) (significand : Nat) {exponent lesser : Int}
    (below : lesser ≤ exponent) :
    signed sign (scaled significand exponent) =
      (sign.apply (significand * 2 ^ (exponent - lesser).toNat : Nat) : Int) * 2 ^ lesser := by
  obtain ⟨distance, apart⟩ := Int.eq_ofNat_of_zero_le (sub_nonneg.2 below)
  have moved : scaled significand exponent =
      ((significand * 2 ^ distance : Nat) : Rat) * 2 ^ lesser := by
    rw [scaled_eq, show exponent = distance + lesser by omega, zpow_add₀ two_ne_zero, zpow_natCast]
    push_cast
    ring
  rw [moved, apart, Int.toNat_natCast, ← signed_natCast]
  cases sign
  · exact (neg_mul _ _).symm
  · rfl

/-- A sum is the number nearest to the exact sum. -/
theorem isNearest_add (valued : value? first = some value)
    (valued' : value? second = some value') : IsNearest (first + second) (value + value') := by
  have computed := unpack_add first second
  rcases parts_of_value? valued with ⟨sign, parts, rfl⟩ | ⟨sign, m, e, positive, parts, rfl⟩
  · rcases parts_of_value? valued' with ⟨sign', parts', rfl⟩ | ⟨sign', n, f, positive', parts', rfl⟩
    · rw [add_zero]
      rw [parts, parts'] at computed
      cases sign <;> cases sign' <;> exact isNearest_of_stored_zero computed
    · rw [zero_add]
      rw [parts, parts'] at computed
      simp only [UnpackedFloat.add, stored_unpack_finite parts'] at computed
      exact isNearest_of_value? (value?_of_finite computed)
  · rcases parts_of_value? valued' with ⟨sign', parts', rfl⟩ | ⟨sign', n, f, positive', parts', rfl⟩
    · rw [add_zero]
      rw [parts, parts'] at computed
      simp only [UnpackedFloat.add, stored_unpack_finite parts] at computed
      exact isNearest_of_value? (value?_of_finite computed)
    · rw [parts, parts'] at computed
      simp only [UnpackedFloat.add, decreaseExponent, Nat.shiftLeft_eq] at computed
      rw [signed_aligned sign m (min_le_left e f), signed_aligned sign' n (min_le_right e f),
        ← add_mul, ← Int.cast_add]
      exact isNearest_of_normalize computed

/-- A difference is the number nearest to the exact difference. -/
theorem isNearest_sub (valued : value? first = some value)
    (valued' : value? second = some value') : IsNearest (first - second) (value - value') := by
  have computed := unpack_sub first second
  rcases parts_of_value? valued with ⟨sign, parts, rfl⟩ | ⟨sign, m, e, positive, parts, rfl⟩
  · rcases parts_of_value? valued' with ⟨sign', parts', rfl⟩ | ⟨sign', n, f, positive', parts', rfl⟩
    · rw [sub_zero]
      rw [parts, parts'] at computed
      cases sign <;> cases sign' <;> exact isNearest_of_stored_zero computed
    · rw [zero_sub, ← signed_neg]
      obtain ⟨storable, fits⟩ := storable_of_unpack parts'
      rw [parts, parts', UnpackedFloat.sub, stored_finite storable, if_pos fits] at computed
      exact isNearest_of_value? (value?_of_finite computed)
  · rcases parts_of_value? valued' with ⟨sign', parts', rfl⟩ | ⟨sign', n, f, positive', parts', rfl⟩
    · rw [sub_zero]
      rw [parts, parts'] at computed
      simp only [UnpackedFloat.sub, stored_unpack_finite parts] at computed
      exact isNearest_of_value? (value?_of_finite computed)
    · rw [parts, parts'] at computed
      simp only [UnpackedFloat.sub, decreaseExponent, Nat.shiftLeft_eq] at computed
      rw [signed_aligned sign m (min_le_left e f), signed_aligned sign' n (min_le_right e f),
        ← sub_mul, ← Int.cast_sub]
      exact isNearest_of_normalize computed

/-- What is stored has 53 bits or the least exponent. -/
theorem Storable.product_long {significand significand' : Nat} {exponent exponent' : Int}
    (storable : Storable significand exponent) (storable' : Storable significand' exponent')
    (positive : 0 < significand) (positive' : 0 < significand') :
    2 ^ 52 ≤ significand * significand' ∨ exponent + exponent' ≤ -1074 := by
  rcases storable.filled with least | filled
  · rcases storable'.filled with least' | filled'
    · right
      omega
    · exact .inl (filled'.trans (Nat.le_mul_of_pos_left _ positive))
  · exact .inl (filled.trans (Nat.le_mul_of_pos_right _ positive'))

/-- The parts of a product are the product of the magnitudes, rounded. -/
theorem rounds_mul {sign sign' : Sign} {magnitude magnitude' : Rat}
    (carries : Carries first sign magnitude) (carries' : Carries second sign' magnitude') :
    ∃ parts, unpack (first * second) = stored parts ∧
      Rounds (sign * sign') (magnitude * magnitude') parts := by
  refine ⟨UnpackedFloat.mul Format.binary64 (unpack first) (unpack second), rfl, ?_⟩
  cases carries with
  | zero parts =>
    rw [parts, zero_mul]
    cases carries' with
    | zero parts' | finite _ parts' =>
      rw [parts']
      exact .zero rounded_zero
  | @finite m e positive parts =>
    cases carries' with
    | zero parts' =>
      rw [parts, parts', mul_zero]
      exact .zero rounded_zero
    | @finite n f positive' parts' =>
      have long := (storable_of_unpack parts).1.product_long (storable_of_unpack parts').1
        positive positive'
      have magnitudes : scaled m e * scaled n f = (m * n : Nat) * 2 ^ (e + f) := by
        rw [scaled_eq, scaled_eq, zpow_add₀ two_ne_zero]
        push_cast
        ring
      rw [parts, parts', magnitudes]
      exact roundWithAccuracy_rounds _ (Nat.cast_pos.2 (Nat.mul_pos positive positive'))
        (tracks_exact _) long

/-- A product is the number nearest to the exact product. -/
theorem isNearest_mul (valued : value? first = some value)
    (valued' : value? second = some value') : IsNearest (first * second) (value * value') := by
  obtain ⟨sign, magnitude, carries, rfl⟩ := exists_carries valued
  obtain ⟨sign', magnitude', carries', rfl⟩ := exists_carries valued'
  obtain ⟨parts, computed, rounds⟩ := rounds_mul carries carries'
  rw [← signed_mul]
  exact isNearest_of_rounds computed rounds

/-- A quotient is computed with 53 bits or the least exponent. -/
theorem quotient_long {dividend divisor : Nat} {exponent exponent' target : Int}
    (positive : 0 < dividend) (positive' : 0 < divisor)
    (chosen : target = min (exponent - exponent') (Format.binary64.targetExponent
      (totalExponent dividend exponent - totalExponent divisor exponent'))) :
    2 ^ 52 ≤ dividend * 2 ^ (exponent - exponent' - target).toNat / divisor ∨
      target ≤ -1074 := by
  rw [targetExponent_eq, totalExponent, totalExponent] at chosen
  by_cases bottom : target ≤ -1074
  · exact .inr bottom
  · left
    rw [Nat.le_div_iff_mul_le positive']
    have filled : 2 ^ dividend.log2 ≤ dividend := Nat.log2_self_le positive.ne'
    have short : divisor < 2 ^ (divisor.log2 + 1) := Nat.lt_log2_self
    calc 2 ^ 52 * divisor ≤ 2 ^ 52 * 2 ^ (divisor.log2 + 1) := Nat.mul_le_mul_left _ short.le
      _ = 2 ^ (52 + (divisor.log2 + 1)) := (Nat.pow_add _ _ _).symm
      _ ≤ 2 ^ (dividend.log2 + (exponent - exponent' - target).toNat) :=
          Nat.pow_le_pow_right (by decide) (by omega)
      _ = 2 ^ dividend.log2 * 2 ^ (exponent - exponent' - target).toNat := Nat.pow_add _ _ _
      _ ≤ dividend * 2 ^ (exponent - exponent' - target).toNat := Nat.mul_le_mul_right _ filled

/-- The parts of a quotient are the quotient of the magnitudes, rounded, unless one divides by
zero. -/
theorem rounds_div {sign sign' : Sign} {magnitude magnitude' : Rat}
    (carries : Carries first sign magnitude) (carries' : Carries second sign' magnitude')
    (nonzero : magnitude' ≠ 0) :
    ∃ parts, unpack (first / second) = stored parts ∧
      Rounds (sign / sign') (magnitude / magnitude') parts := by
  refine ⟨_, unpack_div first second, ?_⟩
  cases carries' with
  | zero parts' => exact absurd rfl nonzero
  | @finite n f positive' parts' =>
    cases carries with
    | zero parts =>
      rw [parts, parts', zero_div]
      exact .zero rounded_zero
    | @finite m e positive parts =>
      rw [parts, parts']
      simp only [UnpackedFloat.div, divCore, Nat.shiftLeft_eq]
      obtain ⟨target, chosen⟩ : ∃ target, target = min (e - f) (Format.binary64.targetExponent
        (totalExponent m e - totalExponent n f)) := ⟨_, rfl⟩
      have long := quotient_long positive positive' chosen
      rw [← chosen]
      obtain ⟨distance, apart⟩ := Int.eq_ofNat_of_zero_le
        (sub_nonneg.2 (chosen.trans_le (min_le_left (e - f) _)))
      rw [apart, Int.toNat_natCast] at long ⊢
      have casted : (0 : Rat) < n := Nat.cast_pos.2 positive'
      have magnitudes : scaled m e / scaled n f =
          ((m * 2 ^ distance : Nat) : Rat) / n * 2 ^ target := by
        rw [scaled_eq, scaled_eq, show e = f + distance + target by omega, zpow_add₀ two_ne_zero,
          zpow_add₀ two_ne_zero, zpow_natCast]
        have width : (2 : Rat) ^ f ≠ 0 := zpow_ne_zero _ two_ne_zero
        push_cast
        field_simp
      rw [magnitudes]
      have nonzero : (0 : Rat) < (m * 2 ^ distance : Nat) :=
        Nat.cast_pos.2 (Nat.mul_pos positive (Nat.two_pow_pos distance))
      exact roundWithAccuracy_rounds _ (div_pos nonzero casted) (tracks_quotient _ positive') long

/-- A quotient is the number nearest to the exact quotient, unless one divides by zero. -/
theorem isNearest_div (valued : value? first = some value)
    (valued' : value? second = some value') (nonzero : value' ≠ 0) :
    IsNearest (first / second) (value / value') := by
  obtain ⟨sign, magnitude, carries, rfl⟩ := exists_carries valued
  obtain ⟨sign', magnitude', carries', rfl⟩ := exists_carries valued'
  have divisor : magnitude' ≠ 0 := by
    rintro rfl
    exact nonzero (signed_zero sign')
  obtain ⟨parts, computed, rounds⟩ := rounds_div carries carries' divisor
  rw [← signed_div]
  exact isNearest_of_rounds computed rounds

end Operations

/-! ### Integers -/

/-- A number that stands for a value has it. -/
theorem value?_of_extended {number : Float} {value : Rat}
    (same : extended number = ((value : ℝ) : EReal)) : value? number = some value := by
  rw [extended] at same
  split at same
  · rename_i own valued
    rw [valued]
    exact_mod_cast congrArg some (Rat.cast_injective (EReal.coe_injective same))
  · split at same
    · exact absurd same (EReal.bot_ne_coe _)
    · exact absurd same (EReal.top_ne_coe _)

/-- The number nearest to what is not too large when rounded has that value. -/
theorem IsNearest.value?_of_lt {result : Float} {exact : Rat} (nearest : IsNearest result exact)
    (small : |rounded exact| < overflow) : value? result = some (rounded exact) := by
  apply value?_of_extended
  rw [nearest.extended_eq, nearestPoint, held_of_lt small]

/-- The number nearest to an integer of at most 53 bits is that integer. -/
theorem IsNearest.value?_of_short {result : Float} {number : Int}
    (nearest : IsNearest result number) (short : |number| ≤ 2 ^ 53) :
    value? result = some (number : Rat) := by
  apply value?_of_extended
  rw [nearest.extended_eq, nearestPoint_intCast short]
  norm_cast

/-- The number of a 64-bit natural number is the nearest one. -/
theorem isNearest_toFloat (number : UInt64) :
    IsNearest number.toFloat ((number.toNat : Int) : Rat) := by
  have computed : unpack number.toFloat = stored (UnpackedFloat.normalize Format.binary64
    (number.toNat : Int) 0 .positive) := rfl
  have nearest := isNearest_of_normalize computed
  rwa [zpow_zero, mul_one] at nearest

/-- A number scaled by a power of ten is rounded as the product. -/
theorem ofScientific_eq {number exponent : Nat} (positive : 0 < number) (small : exponent ≤ 2048) :
    UnpackedFloat.ofScientific Format.binary64 number exponent =
      roundWithAccuracy Format.binary64 .positive (number <<< 53 * 10 ^ exponent) (-53 + 0)
        .exact := by
  have notLarge : ¬ (exponent : Int) > 2 ^ Format.binary64.exponentBits := by
    change ¬ (exponent : Int) > 2 ^ 11
    omega
  have notSmall : ¬ (exponent : Int) <
      -((2 : Int) ^ Format.binary64.exponentBits + number.log2) := by
    have range : (0 : Int) < 2 ^ Format.binary64.exponentBits := by positivity
    omega
  rw [UnpackedFloat.ofScientific, dif_neg positive.ne', if_neg notLarge, if_neg notSmall,
    if_pos (Int.natCast_nonneg exponent)]
  rfl

/-- The number of a natural number scaled by a power of ten is the nearest one. -/
theorem isNearest_ofModel {number exponent : Nat} (positive : 0 < number)
    (small : exponent ≤ 2048) :
    IsNearest (Float.ofModel (Float.Model.ofScientific number exponent))
      (number * 10 ^ exponent) := by
  have computed : unpack (Float.ofModel (Float.Model.ofScientific number exponent)) =
      stored (UnpackedFloat.ofScientific Format.binary64 number exponent) := rfl
  have filled : 0 < number * 10 ^ exponent := Nat.mul_pos positive (by positivity)
  have shifted : number <<< 53 * 10 ^ exponent = number * 10 ^ exponent * 2 ^ 53 := by
    rw [Nat.shiftLeft_eq]
    ring
  have long : 2 ^ 52 ≤ number <<< 53 * 10 ^ exponent := by
    rw [shifted]
    omega
  have casted : (0 : Rat) < (number <<< 53 * 10 ^ exponent : Nat) := Nat.cast_pos.2 (by omega)
  have whole : ((number <<< 53 * 10 ^ exponent : Nat) : Rat) * 2 ^ (-53 + 0 : Int) =
      number * 10 ^ exponent := by
    rw [shifted, Nat.cast_mul, Nat.cast_pow, Nat.cast_two, ← zpow_natCast, mul_assoc,
      ← zpow_add₀ two_ne_zero, add_zero, Nat.cast_ofNat, add_neg_cancel, zpow_zero, mul_one]
    push_cast
    rfl
  rw [ofScientific_eq positive small] at computed
  have nearest := isNearest_of_rounds computed
    (roundWithAccuracy_rounds .positive casted (tracks_exact _) (.inl long))
  rw [whole] at nearest
  exact nearest

/-- The number of a natural number is the nearest one. -/
theorem isNearest_ofNat (number : Nat) : IsNearest (Float.ofNat number) number := by
  change IsNearest (Float.ofScientific number false 0) number
  by_cases short : number < 2 ^ 53
  · rw [Float.ofScientific, dif_pos (by omega)]
    change IsNearest (number.toUInt64.toFloat * Float.ofBits 0x3FF0000000000000) number
    have held : number.toUInt64.toNat = number := by
      rw [Nat.toUInt64_eq, UInt64.toNat_ofNat', Nat.mod_eq_of_lt (by omega)]
    have small : |(number : Int)| ≤ 2 ^ 53 := by
      rw [abs_of_nonneg (Int.natCast_nonneg number)]
      exact_mod_cast short.le
    have valued := (isNearest_toFloat number.toUInt64).value?_of_short (by rwa [held])
    have unit : value? (Float.ofBits 0x3FF0000000000000) = some 1 := by decide +kernel
    have product := isNearest_mul valued unit
    rwa [held, mul_one, Int.cast_natCast] at product
  · rw [Float.ofScientific, dif_neg (by omega)]
    have nearest := isNearest_ofModel (by omega : 0 < number) (Nat.zero_le 2048)
    rwa [pow_zero, mul_one] at nearest

/-- A power of ten up to a generous limit is written as the number nearest to it. -/
theorem isNearest_powerOfTen {exponent : Nat} (small : exponent ≤ 2048) :
    IsNearest (Float.ofScientific 1 false exponent) (10 ^ exponent) := by
  by_cases short : exponent ≤ 22
  · have exact : ∀ power ∈ List.range 23,
        value? (Float.ofScientific 1 false power) = some (10 ^ power) := by decide +kernel
    exact isNearest_of_value? (exact exponent (List.mem_range.2 (by omega)))
  · rw [Float.ofScientific, dif_neg (by omega)]
    have nearest := isNearest_ofModel one_pos small
    rwa [Nat.cast_one, one_mul] at nearest

/-- The number of an integer is the nearest one. -/
theorem isNearest_ofInt (number : Int) : IsNearest (Float.ofInt number) number := by
  cases number with
  | ofNat number =>
    rw [Int.ofNat_eq_natCast, Int.cast_natCast]
    exact isNearest_ofNat number
  | negSucc number =>
    rw [Int.cast_negSucc]
    exact (isNearest_ofNat (number + 1)).neg

/-! ### Distances -/

/-- Positive infinity outweighs a value. -/
theorem add_sub_of_top {number infinite : Float} {value : Rat}
    (valued : value? number = some value) (isNumber : infinite.isNaN = false)
    (top : extended infinite = ⊤) :
    ((number + infinite).isNaN = false ∧ extended (number + infinite) = ⊤) ∧
      (number - infinite).isNaN = false ∧ extended (number - infinite) = ⊥ := by
  have parts : unpack infinite = .infinity .positive := by
    rw [← unpack_ne_notANumber_iff] at isNumber
    rcases parts : unpack infinite with (_ | _) | _ | _ | ⟨_ | _, m, e, positive⟩ <;>
      simp [extended, value?, isNegative, parts] at isNumber top
    · rfl
  have computed : unpack (number + infinite) = .infinity .positive ∧
      unpack (number - infinite) = .infinity .negative := by
    rw [unpack_add, unpack_sub, parts]
    rcases parts_of_value? valued with ⟨sign, parts', -⟩ | ⟨sign, _, _, _, parts', -⟩ <;>
      rw [parts'] <;> exact ⟨stored_infinity .positive, stored_infinity .negative⟩
  have sum := extended_of_infinity computed.1
  have difference := extended_of_infinity computed.2
  exact ⟨sum, difference⟩

/-- Results within a distance of a value are within it when all are rounded, also if the distance
is too large to be stored. -/
theorem within_distance {number distance result : Float} {value width exact : Rat}
    (valued : value? number = some value) (far : IsNearest distance width)
    (kept : rounded width = width) (positive : 0 < width) (nearest : IsNearest result exact) :
    (value - width ≤ exact → number - distance ≤ result) ∧
      (exact ≤ value + width → result ≤ number + distance) := by
  by_cases small : width < overflow
  · have known := far.value?_of_lt (by rwa [kept, abs_of_pos positive])
    rw [kept] at known
    exact ⟨(isNearest_sub valued known).le nearest, nearest.le (isNearest_add valued known)⟩
  · have top : extended distance = ⊤ := by
      rw [far.extended_eq, nearestPoint, kept, held, if_pos (not_lt.1 small)]
    obtain ⟨⟨sumNumber, highest⟩, differenceNumber, lowest⟩ :=
      add_sub_of_top valued far.isNumber top
    rw [le_iff_extended differenceNumber nearest.isNumber, lowest,
      le_iff_extended nearest.isNumber sumNumber, highest]
    exact ⟨fun _ => bot_le, fun _ => le_top⟩

end BenchFigures.Binary64
