import BenchFigures.Proofs.CorrectRounding
import BenchFigures.Proofs.NotANumber

/-!
# Signs and magnitudes

A finite number is determined by its sign and its magnitude. Products and quotients multiply and
divide both, and the magnitude is rounded. This says which zero comes out where a result is rounded
to zero, which the exact values alone do not.
-/

namespace BenchFigures.Binary64

open Float.Model (Format UnpackedFloat)
open Float.Model.UnpackedFloat

variable {number first second : Float} {sign sign' : Sign} {magnitude magnitude' : Rat}

namespace Carries

/-- A number has its magnitude, with its sign, as value. -/
theorem value?_eq (carries : Carries number sign magnitude) :
    value? number = some (signed sign magnitude) := by
  cases carries with
  | zero parts => rw [value?, parts, signed_zero]
  | finite positive parts => exact value?_of_finite parts

/-- A number shows its sign. -/
theorem isNegative_iff (carries : Carries number sign magnitude) :
    isNegative number = true ↔ sign = .negative := by
  cases carries with
  | zero parts | finite positive parts =>
    rw [isNegative, parts]
    cases sign <;> simp

theorem nonnegative (carries : Carries number sign magnitude) : 0 ≤ magnitude := by
  cases carries with
  | zero parts => exact le_rfl
  | @finite _ exponent positive parts => exact (scaled_pos positive exponent).le

theorem lt_overflow (carries : Carries number sign magnitude) : magnitude < overflow := by
  have small := abs_lt_overflow carries.value?_eq
  rw [abs_signed] at small
  exact (le_abs_self magnitude).trans_lt small

/-- A magnitude is not changed by rounding. -/
theorem rounded_eq (carries : Carries number sign magnitude) : rounded magnitude = magnitude := by
  have kept := rounded_of_value? carries.value?_eq
  rw [rounded_signed] at kept
  cases sign with
  | negative => exact neg_inj.1 kept
  | positive => exact kept

/-- A number compares as equal to zero exactly if its magnitude is zero. -/
theorem eq_zero_iff (carries : Carries number sign magnitude) :
    (number == 0.0) = true ↔ magnitude = 0 := by
  rw [Binary64.eq_zero_iff]
  cases carries with
  | zero parts => exact iff_of_true ⟨sign, parts⟩ rfl
  | @finite _ exponent positive parts =>
    refine iff_of_false ?_ (scaled_pos positive exponent).ne'
    rintro ⟨_, nothing⟩
    rw [parts] at nothing
    exact UnpackedFloat.noConfusion nothing

end Carries

/-! ### What determines a number -/

/-- Numbers with the same parts are the same. -/
theorem eq_of_unpack (same : unpack first = unpack second) : first = second := by
  obtain ⟨⟨bits, valid⟩⟩ := first
  obtain ⟨⟨bits', valid'⟩⟩ := second
  have packed := pack_unpack_of_valid valid
  have packed' := pack_unpack_of_valid valid'
  change UnpackedFloat.unpack Format.binary64 bits.toBitVec =
    UnpackedFloat.unpack Format.binary64 bits'.toBitVec at same
  rw [same, packed'] at packed
  obtain rfl : bits = bits' := UInt64.toBitVec_inj.1 packed.symm
  rfl

/-- What is storable is determined by its value. -/
theorem Storable.eq_of_scaled {significand significand' : Nat} {exponent exponent' : Int}
    (storable : Storable significand exponent) (storable' : Storable significand' exponent')
    (same : scaled significand exponent = scaled significand' exponent') :
    significand = significand' ∧ exponent = exponent' := by
  have exponents : exponent = exponent' := by
    rcases lt_trichotomy exponent exponent' with less | equal | more
    · exact absurd same (storable.scaled_lt storable' less).ne
    · exact equal
    · exact absurd same (storable'.scaled_lt storable more).ne'
  subst exponents
  refine ⟨?_, rfl⟩
  rcases lt_trichotomy significand significand' with less | equal | more
  · exact absurd same (scaled_lt_of_significand exponent less).ne
  · exact equal
  · exact absurd same (scaled_lt_of_significand exponent more).ne'

/-- A number is determined by its sign and its magnitude. -/
theorem Carries.unique (carries : Carries first sign magnitude)
    (carries' : Carries second sign magnitude) : first = second := by
  generalize same : magnitude = other at carries'
  cases carries with
  | zero parts =>
    cases carries' with
    | zero parts' => exact eq_of_unpack (parts.trans parts'.symm)
    | @finite _ exponent positive' parts' => exact absurd same (scaled_pos positive' exponent).ne
  | @finite _ exponent positive parts =>
    cases carries' with
    | zero parts' => exact absurd same (scaled_pos positive exponent).ne'
    | finite positive' parts' =>
      obtain ⟨rfl, rfl⟩ := (storable_of_unpack parts).1.eq_of_scaled
        (storable_of_unpack parts').1 same
      exact eq_of_unpack (parts.trans parts'.symm)

/-- A number with a sign and the magnitude as its value has both. -/
theorem carries_iff :
    Carries number sign magnitude ↔
      value? number = some (signed sign magnitude) ∧
        (isNegative number = true ↔ sign = .negative) := by
  constructor
  · intro carries
    exact ⟨carries.value?_eq, carries.isNegative_iff⟩
  · rintro ⟨valued, shown⟩
    obtain ⟨own, size, carries, same⟩ := exists_carries valued
    obtain rfl : own = sign := by
      rw [carries.isNegative_iff] at shown
      cases own <;> cases sign <;> simp at shown ⊢
    obtain rfl : magnitude = size := by
      cases own with
      | negative => exact neg_inj.1 same
      | positive => exact same
    exact carries

/-- A nearest number with a positive value carries it without a sign. -/
theorem IsNearest.carries {exact : Rat} (nearest : IsNearest number exact)
    (positive : 0 < rounded exact) (small : rounded exact < overflow) :
    Carries number .positive (rounded exact) := by
  have valued := nearest.value?_of_lt (by rwa [abs_of_pos positive])
  obtain ⟨sign, size, carries, same⟩ := exists_carries valued
  rw [same] at positive ⊢
  cases sign with
  | negative => exact absurd positive (neg_nonpos.2 carries.nonnegative).not_gt
  | positive => exact carries

/-! ### Results -/

/-- What rounding stores has the sign and the rounded magnitude, unless that is too large. -/
theorem Rounds.carries {parts : UnpackedFloat} (rounds : Rounds sign magnitude parts)
    (computed : unpack number = stored parts) (small : rounded magnitude < overflow) :
    Carries number sign (rounded magnitude) := by
  cases rounds with
  | zero nothing =>
    rw [stored_zero] at computed
    rw [nothing]
    exact .zero computed
  | finite positive storable result =>
    rw [result] at small ⊢
    rw [stored_finite storable, if_pos (storable.scaled_lt_overflow_iff.1 small)] at computed
    exact .finite positive computed

/-- What rounding stores is infinite if the rounded magnitude is too large. -/
theorem Rounds.isInf_iff {parts : UnpackedFloat} (rounds : Rounds sign magnitude parts)
    (computed : unpack number = stored parts) :
    number.isInf = true ↔ overflow ≤ rounded magnitude := by
  rw [Binary64.isInf_iff, computed]
  cases rounds with
  | zero nothing =>
    rw [nothing, stored_zero]
    refine iff_of_false ?_ overflow_pos.not_ge
    rintro ⟨_, infinite⟩
    exact UnpackedFloat.noConfusion infinite
  | @finite significand exponent positive storable result =>
    have fits := storable.scaled_lt_overflow_iff
    rw [result, stored_finite storable]
    by_cases small : scaled significand exponent < overflow
    · rw [if_pos (fits.1 small)]
      refine iff_of_false ?_ small.not_ge
      rintro ⟨_, infinite⟩
      exact UnpackedFloat.noConfusion infinite
    · rw [if_neg (mt fits.2 small)]
      exact iff_of_true ⟨sign, rfl⟩ (not_lt.1 small)

/-- A product has the product of the signs and the rounded product of the magnitudes. -/
theorem Carries.mul (carries : Carries first sign magnitude)
    (carries' : Carries second sign' magnitude')
    (small : rounded (magnitude * magnitude') < overflow) :
    Carries (first * second) (sign * sign') (rounded (magnitude * magnitude')) := by
  obtain ⟨parts, computed, rounds⟩ := rounds_mul carries carries'
  exact rounds.carries computed small

/-- A product is infinite exactly if the rounded product of the magnitudes is too large. -/
theorem Carries.isInf_mul_iff (carries : Carries first sign magnitude)
    (carries' : Carries second sign' magnitude') :
    (first * second).isInf = true ↔ overflow ≤ rounded (magnitude * magnitude') := by
  obtain ⟨parts, computed, rounds⟩ := rounds_mul carries carries'
  exact rounds.isInf_iff computed

/-- A quotient has the quotient of the signs and the rounded quotient of the magnitudes. -/
theorem Carries.div (carries : Carries first sign magnitude)
    (carries' : Carries second sign' magnitude') (nonzero : magnitude' ≠ 0)
    (small : rounded (magnitude / magnitude') < overflow) :
    Carries (first / second) (sign / sign') (rounded (magnitude / magnitude')) := by
  obtain ⟨parts, computed, rounds⟩ := rounds_div carries carries' nonzero
  exact rounds.carries computed small

/-- Negation changes the sign alone. -/
theorem Carries.neg (carries : Carries number sign magnitude) :
    Carries (-number) (-sign) magnitude := by
  have negated : unpack (-number) = stored (unpack number).neg := rfl
  cases carries with
  | zero parts =>
    rw [parts, UnpackedFloat.neg, stored_zero] at negated
    exact .zero negated
  | finite positive parts =>
    obtain ⟨storable, fits⟩ := storable_of_unpack parts
    rw [parts, UnpackedFloat.neg, stored_finite storable, if_pos fits] at negated
    exact .finite positive negated

/-- The number of a natural number carries it, rounded. -/
theorem carries_ofNat {count : Nat} (small : rounded count < overflow) :
    Carries (Float.ofNat count) .positive (rounded count) := by
  rcases Nat.eq_zero_or_pos count with rfl | positive
  · rw [Nat.cast_zero, rounded_zero]
    exact .zero rfl
  · refine (isNearest_ofNat count).carries ?_ small
    have unit : rounded 1 ≤ rounded count := rounded_mono (by exact_mod_cast positive)
    have kept : rounded (1 : Int) = (1 : Int) := rounded_intCast (by norm_num)
    rw [Int.cast_one] at kept
    exact one_pos.trans_le (kept.ge.trans unit)

end BenchFigures.Binary64
