import BenchFigures.Proofs.Binary64

/-!
# Rounding and order

Rounding does not carry a result past a number that can be stored: if the exact result is
at most such a number, so is the rounded one, and the same holds the other way round.
Therefore adding something that is not negative never makes a number smaller, and
subtracting it never makes it greater, whatever is lost in rounding.
-/

namespace BenchFigures.Binary64

open Float.Model (Format UnpackedFloat totalExponent)
open Float.Model.UnpackedFloat

/-! ### Dropping bits -/

/-- Shifting to the right divides the significand. -/
theorem mantissa_shiftRight (significand distance : Nat) :
    (ExtendedMantissa.ofMantissaAndAccuracy significand .exact >>> distance).mantissa =
      significand / 2 ^ distance := by
  induction distance with
  | zero => exact (Nat.div_one _).symm
  | succ distance inductionHypothesis =>
    have step : (ExtendedMantissa.ofMantissaAndAccuracy significand .exact >>>
        (distance + 1)).mantissa =
      (ExtendedMantissa.ofMantissaAndAccuracy significand .exact >>> distance).mantissa / 2 := rfl
    rw [step, inductionHypothesis, Nat.div_div_eq_div_mul, Nat.pow_succ]

/-- If nothing but zeros is dropped, the last bit that is dropped is zero. -/
theorem roundBit_shiftRight (significand distance : Nat) (exact : 2 ^ distance ∣ significand) :
    (ExtendedMantissa.ofMantissaAndAccuracy significand .exact >>> distance).roundBit = false := by
  cases distance with
  | zero => rfl
  | succ distance =>
    have step : (ExtendedMantissa.ofMantissaAndAccuracy significand .exact >>>
        (distance + 1)).roundBit =
      ((ExtendedMantissa.ofMantissaAndAccuracy significand .exact >>> distance).mantissa % 2
        != 0) := rfl
    obtain ⟨quotient, rfl⟩ := exact
    have even : 2 ^ (distance + 1) * quotient / 2 ^ distance = 2 * quotient := by
      rw [Nat.pow_succ, Nat.mul_assoc, Nat.mul_div_cancel_left _ (Nat.two_pow_pos distance)]
    rw [step, mantissa_shiftRight, even, Nat.mul_mod_right]
    rfl

/-- Rounding a significand keeps it or adds one, and keeps it unless the last bit that was
dropped is set. -/
theorem roundedMantissa_bounds (extended : ExtendedMantissa) :
    extended.mantissa ≤ extended.roundedMantissa ∧
      extended.roundedMantissa ≤ extended.mantissa + 1 ∧
      (extended.roundBit = false → extended.roundedMantissa = extended.mantissa) := by
  obtain ⟨significand, _ | _, _ | _⟩ := extended <;>
    simp [ExtendedMantissa.roundedMantissa, ExtendedMantissa.accuracy,
      Accuracy.roundToNearestEven]
  omega

/-- A significand rounded after a shift. -/
def dropped (significand distance : Nat) : Nat :=
  (ExtendedMantissa.ofMantissaAndAccuracy significand .exact >>> distance).roundedMantissa

/-- Rounding does not carry a significand below a whole number. -/
theorem le_dropped {whole significand distance : Nat} (below : whole * 2 ^ distance ≤ significand) :
    whole ≤ dropped significand distance := by
  have kept := (roundedMantissa_bounds
    (ExtendedMantissa.ofMantissaAndAccuracy significand .exact >>> distance)).1
  rw [mantissa_shiftRight] at kept
  exact ((Nat.le_div_iff_mul_le (Nat.two_pow_pos distance)).2 below).trans kept

/-- Rounding does not carry a significand above a whole number. -/
theorem dropped_le {whole significand distance : Nat} (above : significand ≤ whole * 2 ^ distance) :
    dropped significand distance ≤ whole := by
  obtain ⟨-, added, exact⟩ := roundedMantissa_bounds
    (ExtendedMantissa.ofMantissaAndAccuracy significand .exact >>> distance)
  rw [mantissa_shiftRight] at added exact
  rcases above.eq_or_lt with rfl | less
  · have kept := exact (roundBit_shiftRight _ _ (Nat.dvd_mul_left _ _))
    rw [Nat.mul_div_cancel _ (Nat.two_pow_pos distance)] at kept
    exact kept.le
  · have quotient : significand / 2 ^ distance < whole :=
      (Nat.div_lt_iff_lt_mul (Nat.two_pow_pos distance)).2 less
    exact added.trans quotient

/-! ### Rounding to what can be stored -/

/-- A significand and an exponent as they are stored: at most 53 bits and, unless the
exponent is the least one, not fewer. -/
structure Storable (significand : Nat) (exponent : Int) : Prop where
  least : -1074 ≤ exponent
  short : significand < 2 ^ 53
  filled : exponent = -1074 ∨ 2 ^ 52 ≤ significand

theorem targetExponent_eq (total : Int) :
    Format.binary64.targetExponent total = max (total - 53) (-1074) := rfl

/-- The logarithm of a significand that fills 53 bits. -/
theorem log2_of_filled {significand : Nat} (filled : 2 ^ 52 ≤ significand)
    (short : significand < 2 ^ 53) : significand.log2 = 52 :=
  (Nat.log2_eq_iff (by omega)).2 ⟨filled, short⟩

/-- What is storable has the exponent that rounding aims at. -/
theorem Storable.target {significand : Nat} {exponent : Int}
    (storable : Storable significand exponent) :
    max (((significand.log2 + 1 : Nat) : Int) + exponent - 53) (-1074) = exponent := by
  obtain ⟨least, short, rfl | filled⟩ := storable
  · have logarithm : significand.log2 < 53 := by
      by_cases zero : significand = 0
      · simp [zero]
      · exact (Nat.log2_lt zero).2 short
    omega
  · rw [log2_of_filled filled short]
    omega

/-- What is storable is not shifted. -/
theorem shift_storable {significand : Nat} {exponent : Int}
    (storable : Storable significand exponent) :
    shiftToTargetExponent Format.binary64 significand exponent .exact =
      (ExtendedMantissa.ofMantissaAndAccuracy significand .exact, exponent) := by
  have target : Format.binary64.targetExponent (totalExponent significand exponent) =
    exponent := storable.target
  simp only [shiftToTargetExponent, shiftToExponent, target, Int.sub_self, Int.toNat_zero,
    Int.natCast_zero, Int.add_zero]
  rfl

/-- A significand with one bit too many is shifted by one. -/
theorem shift_overlong {exponent : Int} (least : -1074 ≤ exponent) :
    shiftToTargetExponent Format.binary64 (2 ^ 53) exponent .exact =
      (ExtendedMantissa.ofMantissaAndAccuracy (2 ^ 52) .exact, exponent + 1) := by
  have target : Format.binary64.targetExponent (totalExponent (2 ^ 53) exponent) =
      exponent + 1 := by
    rw [targetExponent_eq, totalExponent, Nat.log2_two_pow]
    omega
  have one : (exponent + 1 - exponent).toNat = 1 := by omega
  simp only [shiftToTargetExponent, shiftToExponent, target, one]
  rfl

/-- Rounding leaves alone what is storable. -/
theorem roundWithAccuracy_storable {significand : Nat} {exponent : Int}
    (storable : Storable significand exponent) (positive : 0 < significand) (sign : Sign) :
    roundWithAccuracy Format.binary64 sign significand exponent .exact =
      .finite sign significand exponent positive := by
  have kept : (ExtendedMantissa.ofMantissaAndAccuracy significand .exact).roundedMantissa =
    significand := rfl
  have same : (ExtendedMantissa.ofMantissaAndAccuracy significand .exact).mantissa =
    significand := rfl
  simp only [roundWithAccuracy, shift_storable storable, kept, same, positive.ne', ↓reduceDIte]

/-- A significand of at most 53 bits is only moved until it is storable. -/
theorem round_short {significand : Nat} {exponent : Int} (positive : 0 < significand)
    (least : -1074 ≤ exponent) (short : significand < 2 ^ 53) :
    ∃ distance : Nat, ∃ moved : 0 < significand * 2 ^ distance,
      Storable (significand * 2 ^ distance) (exponent - distance) ∧
        ∀ sign, UnpackedFloat.round Format.binary64 sign significand exponent =
          .finite sign (significand * 2 ^ distance) (exponent - distance) moved := by
  have logarithm : significand.log2 < 53 := (Nat.log2_lt positive.ne').2 short
  let target : Int := max (totalExponent significand exponent - 53) (-1074)
  have total : totalExponent significand exponent = significand.log2 + 1 + exponent := rfl
  let distance : Nat := (exponent - target).toNat
  have reached : exponent - distance = target := by omega
  have moved : 0 < significand * 2 ^ distance := Nat.mul_pos positive (Nat.two_pow_pos distance)
  have storable : Storable (significand * 2 ^ distance) (exponent - distance) := by
    have upper : significand < 2 ^ (significand.log2 + 1) := Nat.lt_log2_self
    have lower : 2 ^ significand.log2 ≤ significand := Nat.log2_self_le positive.ne'
    refine ⟨by omega, ?_, ?_⟩
    · calc significand * 2 ^ distance < 2 ^ (significand.log2 + 1) * 2 ^ distance :=
            Nat.mul_lt_mul_of_pos_right upper (Nat.two_pow_pos distance)
        _ = 2 ^ (significand.log2 + 1 + distance) := (Nat.pow_add _ _ _).symm
        _ ≤ 2 ^ 53 := Nat.pow_le_pow_right (by decide) (by omega)
    · by_cases bottom : exponent - distance = -1074
      · exact .inl bottom
      · right
        calc 2 ^ 52 ≤ 2 ^ (significand.log2 + distance) :=
              Nat.pow_le_pow_right (by decide) (by omega)
          _ = 2 ^ significand.log2 * 2 ^ distance := Nat.pow_add _ _ _
          _ ≤ significand * 2 ^ distance := Nat.mul_le_mul_right _ lower
  refine ⟨distance, moved, storable, ?_⟩
  intro sign
  rw [← roundWithAccuracy_storable storable moved sign, ← Nat.shiftLeft_eq]
  rfl

/-- A longer significand loses its last bits. If that rounds it up to one bit too many, it
loses another one. -/
theorem round_long {significand : Nat} {exponent : Int} (least : -1074 ≤ exponent)
    (long : 2 ^ 53 ≤ significand) :
    ∃ distance : Nat, 2 ^ (52 + distance) ≤ significand ∧ significand < 2 ^ (53 + distance) ∧
      ((dropped significand distance < 2 ^ 53 ∧ ∃ positive, ∀ sign,
          UnpackedFloat.round Format.binary64 sign significand exponent =
            .finite sign (dropped significand distance) (exponent + distance) positive) ∨
        (dropped significand distance = 2 ^ 53 ∧ ∃ positive, ∀ sign,
          UnpackedFloat.round Format.binary64 sign significand exponent =
            .finite sign (2 ^ 52) (exponent + distance + 1) positive)) := by
  have nonzero : significand ≠ 0 := by omega
  have logarithm : 53 ≤ significand.log2 := (Nat.le_log2 nonzero).2 long
  obtain ⟨distance, bits⟩ : ∃ distance : Nat, significand.log2 = 52 + distance :=
    ⟨significand.log2 - 52, by omega⟩
  have lower : 2 ^ (52 + distance) ≤ significand := bits ▸ Nat.log2_self_le nonzero
  have upper : significand < 2 ^ (53 + distance) := by
    have own : significand < 2 ^ (significand.log2 + 1) := Nat.lt_log2_self
    rwa [bits, show 52 + distance + 1 = 53 + distance by omega] at own
  have target : Format.binary64.targetExponent (totalExponent significand exponent) =
      exponent + distance := by
    rw [targetExponent_eq, totalExponent, bits]
    omega
  have first : shiftToTargetExponent Format.binary64 significand exponent .exact =
      (ExtendedMantissa.ofMantissaAndAccuracy significand .exact >>> distance,
        exponent + distance) := by
    have apart : (exponent + distance - exponent).toNat = distance := by omega
    simp only [shiftToTargetExponent, shiftToExponent, target, apart]
  have begun (sign : Sign) : UnpackedFloat.round Format.binary64 sign significand exponent =
      roundWithAccuracy Format.binary64 sign significand exponent .exact := by
    have unmoved : (exponent - (exponent + distance)).toNat = 0 := by omega
    simp only [UnpackedFloat.round, decreaseExponent, target, unmoved, Nat.shiftLeft_zero,
      Int.natCast_zero, Int.sub_zero]
  have filled : 2 ^ 52 ≤ dropped significand distance :=
    le_dropped (by rw [← Nat.pow_add]; exact lower)
  have bounded : dropped significand distance ≤ 2 ^ 53 :=
    dropped_le (by rw [← Nat.pow_add]; exact upper.le)
  have rounded : (ExtendedMantissa.ofMantissaAndAccuracy significand .exact >>>
    distance).roundedMantissa = dropped significand distance := rfl
  have kept (number : Nat) : (ExtendedMantissa.ofMantissaAndAccuracy number .exact).mantissa =
    number := rfl
  refine ⟨distance, lower, upper, ?_⟩
  simp only [begun, roundWithAccuracy, first, rounded]
  rcases bounded.lt_or_eq with short | overlong
  · have storable : Storable (dropped significand distance) (exponent + distance) :=
      ⟨by omega, short, .inr filled⟩
    have positive : 0 < dropped significand distance := by omega
    refine .inl ⟨short, positive, ?_⟩
    intro sign
    simp only [shift_storable storable, kept, positive.ne', ↓reduceDIte]
  · refine .inr ⟨overlong, by decide, ?_⟩
    intro sign
    simp only [overlong, shift_overlong (by omega : -1074 ≤ exponent + distance), kept]
    rfl

/-- A significand and exponent are not after others: they have a lesser exponent, or the
same one and a significand that is not greater. -/
def Before (significand : Nat) (exponent : Int) (significand' : Nat) (exponent' : Int) : Prop :=
  exponent < exponent' ∨ exponent = exponent' ∧ significand ≤ significand'

/-- What is storable at a greater exponent than a result with a long significand is greater. -/
theorem Storable.lt_of_exponent_lt {significand wide : Nat} {exponent base : Int}
    (storable : Storable significand exponent) (distance : Nat) (least : -1074 ≤ base)
    (greater : base + distance < exponent) (upper : wide < 2 ^ (53 + distance)) :
    wide < significand * 2 ^ (exponent - base).toNat := by
  have filled : 2 ^ 52 ≤ significand := by
    rcases storable.filled with bottom | filled
    · omega
    · exact filled
  calc wide < 2 ^ (53 + distance) := upper
    _ ≤ 2 ^ (52 + (exponent - base).toNat) := Nat.pow_le_pow_right (by decide) (by omega)
    _ = 2 ^ 52 * 2 ^ (exponent - base).toNat := Nat.pow_add _ _ _
    _ ≤ significand * 2 ^ (exponent - base).toNat := Nat.mul_le_mul_right _ filled

/-- What is storable at a lesser exponent than a result with a long significand is less. -/
theorem Storable.lt_of_lt_exponent {significand wide distance : Nat} {exponent base : Int}
    (storable : Storable significand exponent) (above : base ≤ exponent)
    (lesser : exponent < base + distance) (lower : 2 ^ (52 + distance) ≤ wide) :
    significand * 2 ^ (exponent - base).toNat < wide := by
  calc significand * 2 ^ (exponent - base).toNat
      < 2 ^ 53 * 2 ^ (exponent - base).toNat :=
        Nat.mul_lt_mul_of_pos_right storable.short (Nat.two_pow_pos _)
    _ = 2 ^ (53 + (exponent - base).toNat) := (Nat.pow_add _ _ _).symm
    _ ≤ 2 ^ (52 + distance) := Nat.pow_le_pow_right (by decide) (by omega)
    _ ≤ wide := lower

/-- A result is on the same side as the exact one of everything that is storable. -/
def KeepsSides (significand : Nat) (exponent : Int) (significand' : Nat) (exponent' : Int) :
    Prop :=
  ∀ bound other, Storable bound other → exponent ≤ other →
    (bound * 2 ^ (other - exponent).toNat ≤ significand →
      Before bound other significand' exponent') ∧
    (significand ≤ bound * 2 ^ (other - exponent).toNat →
      Before significand' exponent' bound other)

/-- A result that was only moved keeps sides, for nothing has changed. -/
theorem keepsSides_moved {significand distance : Nat} {exponent : Int}
    (storable : Storable (significand * 2 ^ distance) (exponent - distance)) :
    KeepsSides significand exponent (significand * 2 ^ distance) (exponent - distance) := by
  intro bound other bounded above
  by_cases same : other = exponent - distance
  · obtain ⟨rfl, rfl⟩ : distance = 0 ∧ other = exponent := by omega
    simp [Before]
  · constructor
    · intro below
      have greater := bounded.lt_of_exponent_lt 0 storable.least (by omega) storable.short
      have whole : (other - (exponent - distance)).toNat =
        (other - exponent).toNat + distance := by omega
      have scaled := Nat.mul_le_mul_right (2 ^ distance) below
      rw [Nat.mul_assoc, ← Nat.pow_add, ← whole] at scaled
      omega
    · intro _
      left
      omega

section Long

variable {significand distance : Nat} {exponent : Int}

/-- A long significand that is rounded to 53 bits keeps sides. -/
theorem keepsSides_dropped (least : -1074 ≤ exponent)
    (lower : 2 ^ (52 + distance) ≤ significand) (upper : significand < 2 ^ (53 + distance)) :
    KeepsSides significand exponent (dropped significand distance) (exponent + distance) := by
  intro bound other bounded above
  rcases lt_trichotomy other (exponent + distance) with apart | rfl | apart
  · constructor
    · intro _
      exact .inl apart
    · intro within
      exact absurd within (bounded.lt_of_lt_exponent above apart lower).not_ge
  · have aligned : (exponent + distance - exponent).toNat = distance := by omega
    rw [aligned]
    constructor
    · intro below
      exact .inr ⟨rfl, le_dropped below⟩
    · intro within
      exact .inr ⟨rfl, dropped_le within⟩
  · constructor
    · intro below
      exact absurd below (bounded.lt_of_exponent_lt distance least apart upper).not_ge
    · intro _
      exact .inl apart

/-- A long significand that is rounded to one bit too many keeps sides, too: that means one
exponent more, which nothing storable in between has. -/
theorem keepsSides_carried (least : -1074 ≤ exponent)
    (lower : 2 ^ (52 + distance) ≤ significand) (upper : significand < 2 ^ (53 + distance))
    (overlong : dropped significand distance = 2 ^ 53) :
    KeepsSides significand exponent (2 ^ 52) (exponent + distance + 1) := by
  intro bound other bounded above
  obtain ⟨below, beyond⟩ := keepsSides_dropped least lower upper bound other bounded above
  rw [overlong] at below beyond
  have short := bounded.short
  constructor
  · intro reached
    left
    rcases below reached with less | ⟨same, -⟩ <;> omega
  · intro within
    rcases beyond within with less | ⟨-, held⟩
    · have filled : 2 ^ 52 ≤ bound := bounded.filled.resolve_left (by omega)
      rcases (show exponent + distance + 1 ≤ other from less).lt_or_eq with further | next
      · exact .inl further
      · exact .inr ⟨next, filled⟩
    · omega

end Long

/-- A rounded result is storable and keeps sides. -/
theorem round_bounds {significand : Nat} {exponent : Int} (positive : 0 < significand)
    (least : -1074 ≤ exponent) :
    ∃ (significand' : Nat) (exponent' : Int) (positive' : 0 < significand'),
      (∀ sign, UnpackedFloat.round Format.binary64 sign significand exponent =
        .finite sign significand' exponent' positive') ∧
      Storable significand' exponent' ∧
      KeepsSides significand exponent significand' exponent' := by
  by_cases short : significand < 2 ^ 53
  · obtain ⟨distance, moved, storable, rounded⟩ := round_short positive least short
    exact ⟨_, _, moved, rounded, storable, keepsSides_moved storable⟩
  · obtain ⟨distance, lower, upper, rounded⟩ := round_long least (not_lt.1 short)
    rcases rounded with ⟨fits, kept, rounded⟩ | ⟨overlong, kept, rounded⟩
    · have filled : 2 ^ 52 ≤ dropped significand distance :=
        le_dropped (by rw [← Nat.pow_add]; exact lower)
      exact ⟨_, _, kept, rounded, ⟨by omega, fits, .inr filled⟩,
        keepsSides_dropped least lower upper⟩
    · exact ⟨_, _, kept, rounded, ⟨by omega, by decide, .inr le_rfl⟩,
        keepsSides_carried least lower upper overlong⟩

/-! ### Storing -/

/-- The sign of a number can be read off its stored form. -/
theorem sign_packComponents (sign : Sign) (exponent : BitVec 11) (significand : BitVec 52) :
    Sign.ofBitVec (unpackSign (packComponents Format.binary64 sign exponent significand)) =
      sign := by
  have field : unpackSign (packComponents Format.binary64 sign exponent significand) =
      sign.toBitVec := by
    apply BitVec.eq_of_getElem_eq
    intro index bound
    obtain rfl : index = 0 := by omega
    simp only [unpackSign, packComponents, BitVec.extractLsb, BitVec.getElem_cast,
      BitVec.getElem_extractLsb', BitVec.getLsbD_append]
    simp
  rw [field]
  cases sign <;> rfl

/-- A field for exponents holds the exponents of numbers that are neither infinite nor among
the least ones. -/
theorem exponent_field {exponent : Int} (least : -1074 ≤ exponent) (fits : exponent ≤ 971) :
    let field := BitVec.ofNat 11 (exponent + 1075).toNat
    field.toNat = (exponent + 1075).toNat ∧ field ≠ -1#11 ∧ field ≠ 0#11 := by
  intro field
  have holds : field.toNat = (exponent + 1075).toNat := by
    rw [BitVec.toNat_ofNat, Nat.mod_eq_of_lt (by omega)]
  refine ⟨holds, ?_, ?_⟩
  · intro same
    have numbers := congrArg BitVec.toNat same
    rw [holds] at numbers
    change _ = 2047 at numbers
    omega
  · intro same
    have numbers := congrArg BitVec.toNat same
    rw [holds] at numbers
    change _ = 0 at numbers
    omega

/-- What is storable is stored as it is, unless its exponent is too great. -/
theorem stored_finite {significand : Nat} {exponent : Int}
    (storable : Storable significand exponent) (positive : 0 < significand) (sign : Sign) :
    stored (.finite sign significand exponent positive) =
      if exponent ≤ 971 then .finite sign significand exponent positive
      else .infinity sign := by
  have biased : (exponent + (Format.binary64.exponentBias : Int) +
      (Format.binary64.mantissaBitsWithoutImplicit : Int)).toNat = (exponent + 1075).toNat := by
    change (exponent + 1023 + 52).toNat = _
    omega
  have bias : (Format.binary64.exponentBias : Int) +
    (Format.binary64.mantissaBitsWithoutImplicit : Int) = 1075 := rfl
  obtain ⟨least, short, filled⟩ := storable
  simp only [stored, UnpackedFloat.pack, biased]
  by_cases fits : exponent ≤ 971
  · rw [if_pos fits, if_neg (by change ¬ 2048 ≤ _; omega)]
    by_cases normal : 2 ^ 52 ≤ significand
    · obtain ⟨held, finite, nonzero⟩ := exponent_field least fits
      have whole : (1#1 ++ BitVec.ofNat 52 significand).toNat = significand := by
        rw [BitVec.toNat_append, ← Nat.shiftLeft_add_eq_or_of_lt (BitVec.isLt _)]
        simp only [BitVec.toNat_ofNat, Nat.shiftLeft_eq]
        omega
      have place : ((exponent + 1075).toNat : Int) - 1075 = exponent := by omega
      rw [if_pos (by rw [log2_of_filled normal short]; rfl)]
      simp only [UnpackedFloat.unpack, unpackMantissa_packComponents,
        unpackExponent_packComponents, sign_packComponents, if_neg finite, if_neg nonzero, whole,
        held, bias, place]
    · have lowest : exponent = -1074 := filled.resolve_right normal
      have logarithm : significand.log2 < 52 :=
        (Nat.log2_lt positive.ne').2 (not_le.1 normal)
      have held : (BitVec.ofNat 52 significand).toNat = significand := by
        rw [BitVec.toNat_ofNat, Nat.mod_eq_of_lt (not_le.1 normal)]
      have nonzero : BitVec.ofNat 52 significand ≠ 0#52 := by
        intro same
        have numbers := congrArg BitVec.toNat same
        rw [held] at numbers
        exact positive.ne' numbers
      rw [if_neg (by change ¬ significand.log2 + 1 = 53; omega)]
      simp only [UnpackedFloat.unpack, unpackMantissa_packComponents,
        unpackExponent_packComponents, sign_packComponents, dif_neg nonzero, held, bias, lowest]
      rfl
  · rw [if_neg fits, if_pos (by change 2048 ≤ _; omega)]
    cases sign <;> rfl

/-- What is stored is storable, and its exponent is not too great. -/
theorem storable_of_unpack {number : Float} {sign : Sign} {significand : Nat} {exponent : Int}
    {positive : 0 < significand}
    (parts : unpack number = .finite sign significand exponent positive) :
    Storable significand exponent ∧ exponent ≤ 971 := by
  have bias : (Format.binary64.exponentBias : Int) +
    (Format.binary64.mantissaBitsWithoutImplicit : Int) = 1075 := rfl
  obtain ⟨bits, shown⟩ : ∃ bits : BitVec Format.binary64.numBits,
      UnpackedFloat.unpack Format.binary64 bits = .finite sign significand exponent positive :=
    ⟨_, parts⟩
  have short : (unpackMantissa bits).toNat < 2 ^ 52 := BitVec.isLt _
  have held : (unpackExponent bits).toNat < 2048 := BitVec.isLt _
  rw [UnpackedFloat.unpack] at shown
  split at shown
  · split at shown <;> simp at shown
  · rename_i finite
    have bounded : (unpackExponent bits).toNat ≠ 2047 := fun same =>
      finite (BitVec.eq_of_toNat_eq same)
    split at shown
    · rename_i lowest
      split at shown
      · simp at shown
      · rw [bias, lowest] at shown
        obtain ⟨-, rfl, rfl⟩ := UnpackedFloat.finite.inj shown
        exact ⟨⟨le_rfl, by omega, .inl rfl⟩, by decide⟩
    · rename_i nonzero
      have raised : (unpackExponent bits).toNat ≠ 0 := fun same =>
        nonzero (BitVec.eq_of_toNat_eq same)
      have whole : (1#1 ++ unpackMantissa bits).toNat = 2 ^ 52 + (unpackMantissa bits).toNat := by
        rw [BitVec.toNat_append, ← Nat.shiftLeft_add_eq_or_of_lt (BitVec.isLt _)]
        rfl
      rw [bias] at shown
      obtain ⟨-, rfl, rfl⟩ := UnpackedFloat.finite.inj shown
      rw [whole]
      exact ⟨⟨by omega, by omega, .inr (by omega)⟩, by omega⟩

/-! ### Sums and differences -/

/-- Positive parts are ordered by exponent and significand. -/
theorem rank_positive_le_iff {significand significand' : Nat} {exponent exponent' : Int}
    (positive : 0 < significand) (positive' : 0 < significand') :
    rank (.finite .positive significand exponent positive) ≤
        rank (.finite .positive significand' exponent' positive') ↔
      Before significand exponent significand' exponent' := by
  simp [rank, Prod.Lex.toLex_le_toLex, Before]

/-- Negative parts are ordered the other way round. -/
theorem rank_negative_le_iff {significand significand' : Nat} {exponent exponent' : Int}
    (positive : 0 < significand) (positive' : 0 < significand') :
    rank (.finite .negative significand' exponent' positive') ≤
        rank (.finite .negative significand exponent positive) ↔
      Before significand exponent significand' exponent' := by
  simp [rank, Prod.Lex.toLex_le_toLex, Before, eq_comm]

/-- What is rounded and stored is on the same side as the exact result of everything that is
stored, with either sign. -/
theorem rank_stored_round {significand : Nat} {exponent : Int} (positive : 0 < significand)
    (least : -1074 ≤ exponent) {bound : Nat} {other : Int} (bounded : Storable bound other)
    (fits : other ≤ 971) (above : exponent ≤ other) (filled : 0 < bound) :
    (bound * 2 ^ (other - exponent).toNat ≤ significand →
      rank (.finite .positive bound other filled) ≤
          rank (stored (UnpackedFloat.round Format.binary64 .positive significand exponent)) ∧
        rank (stored (UnpackedFloat.round Format.binary64 .negative significand exponent)) ≤
          rank (.finite .negative bound other filled)) ∧
    (significand ≤ bound * 2 ^ (other - exponent).toNat →
      rank (stored (UnpackedFloat.round Format.binary64 .positive significand exponent)) ≤
          rank (.finite .positive bound other filled) ∧
        rank (.finite .negative bound other filled) ≤
          rank (stored (UnpackedFloat.round Format.binary64 .negative significand exponent))) := by
  obtain ⟨significand', exponent', positive', rounded, storable, sides⟩ :=
    round_bounds positive least
  obtain ⟨before, after⟩ := sides bound other bounded above
  rw [rounded, rounded, stored_finite storable, stored_finite storable]
  constructor
  · intro below
    split
    · exact ⟨(rank_positive_le_iff _ _).2 (before below),
        (rank_negative_le_iff _ _).2 (before below)⟩
    · simp [rank, Prod.Lex.toLex_le_toLex]
  · intro within
    have kept : exponent' ≤ 971 := by
      rcases after within with less | ⟨same, -⟩
      · exact (less.trans_le fits).le
      · exact same.trans_le fits
    rw [if_pos kept, if_pos kept]
    exact ⟨(rank_positive_le_iff _ _).2 (after within),
      (rank_negative_le_iff _ _).2 (after within)⟩

/-- Zero is between the signs. -/
theorem rank_finite_zero {significand : Nat} (exponent : Int) (positive : 0 < significand) :
    rank (.finite .negative significand exponent positive) < rank (.zero .positive) ∧
      rank (.zero .positive) < rank (.finite .positive significand exponent positive) := by
  simp [rank, Prod.Lex.toLex_lt_toLex]

/-- Rounding and storing keeps signs. -/
theorem rank_stored_round_zero {significand : Nat} {exponent : Int} (positive : 0 < significand)
    (least : -1074 ≤ exponent) :
    rank (stored (UnpackedFloat.round Format.binary64 .negative significand exponent)) <
        rank (.zero .positive) ∧
      rank (.zero .positive) <
        rank (stored (UnpackedFloat.round Format.binary64 .positive significand exponent)) := by
  obtain ⟨_, _, positive', rounded, storable, -⟩ := round_bounds positive least
  rw [rounded, rounded, stored_finite storable, stored_finite storable]
  split
  · exact rank_finite_zero _ positive'
  · simp [rank, Prod.Lex.toLex_lt_toLex]

/-- A signed sum is zero, or it is rounded with its sign. -/
theorem normalize_cases (sum exponent : Int) :
    (sum = 0 ∧ UnpackedFloat.normalize Format.binary64 sum exponent .positive = .zero .positive) ∨
      ∃ (sign : Sign) (magnitude : Nat), 0 < magnitude ∧ sum = sign.apply magnitude ∧
        UnpackedFloat.normalize Format.binary64 sum exponent .positive =
          UnpackedFloat.round Format.binary64 sign magnitude exponent := by
  rcases lt_trichotomy sum 0 with negative | rfl | positive
  · refine .inr ⟨.negative, (-sum).toNat, by omega, ?_, ?_⟩
    · simp only [Sign.apply]
      omega
    · rw [UnpackedFloat.normalize, Int.compare_eq_lt.2 negative]
  · exact .inl ⟨rfl, rfl⟩
  · refine .inr ⟨.positive, sum.toNat, by omega, ?_, ?_⟩
    · simp only [Sign.apply]
      omega
    · rw [UnpackedFloat.normalize, Int.compare_eq_gt.2 positive]

/-- A signed sum is rounded and stored to a number. -/
theorem stored_normalize_ne_notANumber (sum : Int) {exponent : Int} (least : -1074 ≤ exponent) :
    stored (UnpackedFloat.normalize Format.binary64 sum exponent .positive) ≠ .notANumber := by
  rcases normalize_cases sum exponent with ⟨-, zero⟩ | ⟨sign, magnitude, nonzero, -, rounds⟩
  · rw [zero]
    exact UnpackedFloat.noConfusion
  · obtain ⟨_, _, _, rounded, storable, -⟩ := round_bounds nonzero least
    rw [rounds, rounded, stored_finite storable]
    split <;> exact UnpackedFloat.noConfusion

/-- A signed sum is rounded and stored to the same side as the exact result of everything
that is stored. -/
theorem rank_stored_normalize (sum : Int) {exponent : Int} (least : -1074 ≤ exponent)
    (sign : Sign) {bound : Nat} {other : Int} (bounded : Storable bound other)
    (fits : other ≤ 971) (above : exponent ≤ other) (filled : 0 < bound) :
    (sign.apply (bound * 2 ^ (other - exponent).toNat : Nat) ≤ sum →
      rank (.finite sign bound other filled) ≤
        rank (stored (UnpackedFloat.normalize Format.binary64 sum exponent .positive))) ∧
    (sum ≤ sign.apply (bound * 2 ^ (other - exponent).toNat : Nat) →
      rank (stored (UnpackedFloat.normalize Format.binary64 sum exponent .positive)) ≤
        rank (.finite sign bound other filled)) := by
  have scaled : 0 < bound * 2 ^ (other - exponent).toNat :=
    Nat.mul_pos filled (Nat.two_pow_pos _)
  obtain ⟨negativeBelow, positiveAbove⟩ := rank_finite_zero other filled
  rcases normalize_cases sum exponent with ⟨rfl, zero⟩ | ⟨own, magnitude, nonzero, rfl, rounds⟩
  · have kept : stored (.zero .positive) = .zero .positive := rfl
    rw [zero, kept]
    cases sign with
    | negative =>
      simp only [Sign.apply]
      constructor
      · intro _
        exact negativeBelow.le
      · intro reached
        omega
    | positive =>
      simp only [Sign.apply]
      constructor
      · intro reached
        omega
      · intro _
        exact positiveAbove.le
  · obtain ⟨below, beyond⟩ := rank_stored_round_zero nonzero least
    obtain ⟨inner, outer⟩ := rank_stored_round nonzero least bounded fits above filled
    rw [rounds]
    cases own with
    | negative =>
      cases sign with
      | negative =>
        simp only [Sign.apply, Int.neg_le_neg_iff, Int.ofNat_le]
        constructor
        · intro within
          exact (outer within).2
        · intro reached
          exact (inner reached).2
      | positive =>
        simp only [Sign.apply]
        constructor
        · intro reached
          omega
        · intro _
          exact (below.trans positiveAbove).le
    | positive =>
      cases sign with
      | negative =>
        simp only [Sign.apply]
        constructor
        · intro _
          exact (negativeBelow.trans beyond).le
        · intro reached
          omega
      | positive =>
        simp only [Sign.apply, Int.ofNat_le]
        constructor
        · intro reached
          exact (inner reached).1
        · intro within
          exact (outer within).1

/-- What is stored for a number can be stored again. -/
theorem stored_unpack_finite {number : Float} {sign : Sign} {significand : Nat} {exponent : Int}
    {positive : 0 < significand}
    (parts : unpack number = .finite sign significand exponent positive) :
    stored (.finite sign significand exponent positive) =
      .finite sign significand exponent positive := by
  obtain ⟨storable, fits⟩ := storable_of_unpack parts
  rw [stored_finite storable, if_pos fits]

/-- A number with a value that is not less than zero is zero or positive. -/
theorem unpack_of_not_lt_zero {number : Float} (finite : isFinite number)
    (nonnegative : ¬ number < 0.0) :
    (∃ sign, unpack number = .zero sign) ∨
      ∃ significand exponent positive,
        unpack number = .finite .positive significand exponent positive := by
  have zero : rank (unpack 0.0) = rank (.zero .positive) := by decide +kernel
  rw [lt_iff_rank (isNaN_eq_false finite) (by decide +kernel), zero] at nonnegative
  rw [isFinite_eq] at finite
  cases parts : unpack number with
  | notANumber => simp [parts, UnpackedFloat.isFinite] at finite
  | infinity sign => simp [parts, UnpackedFloat.isFinite] at finite
  | zero sign => exact .inl ⟨sign, rfl⟩
  | finite sign significand exponent positive =>
    cases sign with
    | negative =>
      rw [parts] at nonnegative
      exact absurd (rank_finite_zero _ positive).1 nonnegative
    | positive => exact .inr ⟨significand, exponent, positive, rfl⟩

theorem stored_infinity (sign : Sign) : stored (.infinity sign) = .infinity sign := by
  cases sign <;> rfl

/-- Adding or subtracting something with a value does not change what is infinite. -/
theorem add_sub_infinity (sign : Sign) {parts : UnpackedFloat} (finite : parts.isFinite) :
    UnpackedFloat.add Format.binary64 (.infinity sign) parts = .infinity sign ∧
      UnpackedFloat.sub Format.binary64 (.infinity sign) parts = .infinity sign := by
  cases parts with
  | notANumber => exact absurd finite Bool.false_ne_true
  | infinity other => exact absurd finite Bool.false_ne_true
  | zero other => exact ⟨rfl, rfl⟩
  | finite other significand exponent positive => exact ⟨rfl, rfl⟩

/-- Adding something that is zero or positive to finite parts, or subtracting it from them,
leads to the sum or difference of the aligned significands. -/
theorem rank_margin_finite {number margin : Float} {sign : Sign} {significand significand' : Nat}
    {exponent exponent' : Int} {positive : 0 < significand} {positive' : 0 < significand'}
    (parts : unpack number = .finite sign significand exponent positive)
    (parts' : unpack margin = .finite .positive significand' exponent' positive') :
    (unpack (number + margin) ≠ .notANumber ∧
        rank (unpack number) ≤ rank (unpack (number + margin))) ∧
      unpack (number - margin) ≠ .notANumber ∧
        rank (unpack (number - margin)) ≤ rank (unpack number) := by
  obtain ⟨bounded, fits⟩ := storable_of_unpack parts
  obtain ⟨bounded', -⟩ := storable_of_unpack parts'
  have least : -1074 ≤ min exponent exponent' := le_min bounded.least bounded'.least
  have sides (sum : Int) := rank_stored_normalize sum least sign bounded fits
    (min_le_left _ _) positive
  rw [unpack_add, unpack_sub, parts, parts']
  simp only [UnpackedFloat.add, UnpackedFloat.sub, decreaseExponent, Nat.shiftLeft_eq]
  refine ⟨⟨stored_normalize_ne_notANumber _ least, (sides _).1 ?_⟩,
    stored_normalize_ne_notANumber _ least, (sides _).2 ?_⟩
  · exact Int.le_add_of_nonneg_right (Int.natCast_nonneg _)
  · exact Int.sub_le_self _ (Int.natCast_nonneg _)

/-- A rounded sum with, or difference to, a number that is zero or positive is a number. It
is at least, or at most, what one starts from. -/
theorem rank_margin {number margin : Float} (valued : number.isNaN = false)
    (finite : isFinite margin) (nonnegative : ¬ margin < 0.0) :
    (unpack (number + margin) ≠ .notANumber ∧
        rank (unpack number) ≤ rank (unpack (number + margin))) ∧
      unpack (number - margin) ≠ .notANumber ∧
        rank (unpack (number - margin)) ≤ rank (unpack number) := by
  rw [← unpack_ne_notANumber_iff] at valued
  have margins := unpack_of_not_lt_zero finite nonnegative
  rw [isFinite_eq] at finite
  cases parts : unpack number with
  | notANumber => exact absurd parts valued
  | infinity sign =>
    obtain ⟨sum, difference⟩ := add_sub_infinity sign finite
    rw [unpack_add, unpack_sub, parts, sum, difference, stored_infinity]
    exact ⟨⟨UnpackedFloat.noConfusion, le_rfl⟩, UnpackedFloat.noConfusion, le_rfl⟩
  | zero sign =>
    rcases margins with ⟨other, parts'⟩ | ⟨_, _, positive', parts'⟩
    · rw [unpack_add, unpack_sub, parts, parts']
      cases sign <;> cases other <;>
        exact ⟨⟨UnpackedFloat.noConfusion, le_rfl⟩, UnpackedFloat.noConfusion, le_rfl⟩
    · obtain ⟨storable, fits⟩ := storable_of_unpack parts'
      obtain ⟨below, above⟩ := rank_finite_zero _ positive'
      rw [unpack_add, unpack_sub, parts, parts']
      simp only [UnpackedFloat.add, UnpackedFloat.sub, stored_finite storable, if_pos fits]
      exact ⟨⟨UnpackedFloat.noConfusion, above.le⟩, UnpackedFloat.noConfusion, below.le⟩
  | finite sign significand exponent positive =>
    rcases margins with ⟨other, parts'⟩ | ⟨_, _, _, parts'⟩
    · rw [unpack_add, unpack_sub, parts, parts']
      simp only [UnpackedFloat.add, UnpackedFloat.sub, stored_unpack_finite parts]
      exact ⟨⟨UnpackedFloat.noConfusion, le_rfl⟩, UnpackedFloat.noConfusion, le_rfl⟩
    · rw [← parts]
      exact rank_margin_finite parts parts'

/-- Adding a margin never makes a number smaller. -/
theorem le_add {number margin : Float} (valued : number.isNaN = false)
    (finite : isFinite margin) (nonnegative : ¬ margin < 0.0) : number ≤ number + margin := by
  obtain ⟨⟨sum, above⟩, -⟩ := rank_margin valued finite nonnegative
  exact (le_iff_rank valued ((unpack_ne_notANumber_iff _).1 sum)).2 above

/-- Subtracting a margin never makes a number greater. -/
theorem sub_le {number margin : Float} (valued : number.isNaN = false)
    (finite : isFinite margin) (nonnegative : ¬ margin < 0.0) : number - margin ≤ number := by
  obtain ⟨-, difference, below⟩ := rank_margin valued finite nonnegative
  exact (le_iff_rank ((unpack_ne_notANumber_iff _).1 difference) valued).2 below

end BenchFigures.Binary64
