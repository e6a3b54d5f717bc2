import BenchFigures.Proofs.Rounding

/-!
# Where not-a-number comes from

Neither rounding nor storing a result turns it into something that is no number. So a
quotient of two numbers is only none if both are zero or both infinite, and taking away a
number with a value changes nothing. The least of some numbers is always a number, as what is
none does not count.
-/

namespace BenchFigures.Binary64

open Float.Model Float.Model.UnpackedFloat

/-- The parts of what is no number. -/
theorem isNaN_iff (number : Float) : number.isNaN = true ↔ unpack number = .notANumber := by
  have others := unpack_ne_notANumber_iff number
  cases missing : number.isNaN <;> simp_all

/-- A number is infinite if its parts are. -/
theorem isInf_iff (number : Float) :
    number.isInf = true ↔ ∃ sign, unpack number = .infinity sign := by
  have same : number.isInf = (unpack number).isInf := rfl
  rw [same]
  cases unpack number <;> simp [UnpackedFloat.isInf]

/-- Either zero compares as equal to zero, and nothing else does. -/
theorem eq_zero_iff (number : Float) :
    (number == 0.0) = true ↔ ∃ sign, unpack number = .zero sign := by
  have same : (number == 0.0) =
      ((unpack number).compare (.zero .positive) == some .eq) := rfl
  rw [same]
  rcases unpack number with (_ | _) | _ | _ | ⟨_ | _, _, _, _⟩ <;>
    simp [UnpackedFloat.compare]

/-! ### Storing and rounding -/

/-- What is packed with another exponent than the greatest one is a number. -/
theorem unpack_packComponents_ne_notANumber {sign : Sign} {exponent : BitVec 11}
    (ordinary : exponent ≠ -1#11) (significand : BitVec 52) :
    UnpackedFloat.unpack Format.binary64
      (packComponents Format.binary64 sign exponent significand) ≠ .notANumber := by
  simp only [UnpackedFloat.unpack, unpackMantissa_packComponents, unpackExponent_packComponents,
    if_neg ordinary]
  split
  · split <;> exact UnpackedFloat.noConfusion
  · exact UnpackedFloat.noConfusion

/-- Only what is no number is stored as such. -/
theorem stored_eq_notANumber_iff (parts : UnpackedFloat) :
    stored parts = .notANumber ↔ parts = .notANumber := by
  cases parts with
  | notANumber => exact ⟨fun _ => rfl, fun _ => rfl⟩
  | infinity sign => simp [stored_infinity]
  | zero sign => cases sign <;> exact ⟨UnpackedFloat.noConfusion, UnpackedFloat.noConfusion⟩
  | finite sign significand exponent positive =>
    refine iff_of_false ?_ UnpackedFloat.noConfusion
    simp only [stored, UnpackedFloat.pack]
    split
    · cases sign <;> exact UnpackedFloat.noConfusion
    · rename_i fits
      split
      · apply unpack_packComponents_ne_notANumber
        -- The greatest exponent is for what is infinite or no number.
        intro greatest
        have numbers := congrArg BitVec.toNat greatest
        rw [BitVec.toNat_ofNat] at numbers
        change ¬ 2048 ≤ _ at fits
        change _ = 2047 at numbers
        rw [Nat.mod_eq_of_lt (by omega)] at numbers
        omega
      · exact unpack_packComponents_ne_notANumber (by decide) _

/-- Rounding gives zero or something finite. -/
theorem roundWithAccuracy_ne_notANumber (sign : Sign) (significand : Nat) (exponent : Int)
    (accuracy : Accuracy) :
    roundWithAccuracy Format.binary64 sign significand exponent accuracy ≠ .notANumber := by
  simp only [roundWithAccuracy]
  split <;> exact UnpackedFloat.noConfusion

/-- A signed sum is rounded to zero or to something finite. -/
theorem normalize_ne_notANumber (sum exponent : Int) :
    normalize Format.binary64 sum exponent .positive ≠ .notANumber := by
  rcases normalize_cases sum exponent with ⟨-, zero⟩ | ⟨sign, magnitude, -, -, rounds⟩
  · rw [zero]
    exact UnpackedFloat.noConfusion
  · rw [rounds]
    exact roundWithAccuracy_ne_notANumber _ _ _ _

/-! ### Quotients and differences -/

/-- A quotient is no number if the dividend or the divisor is none, or both are zero or both
infinite. -/
theorem isNaN_div_iff (dividend divisor : Float) :
    (dividend / divisor).isNaN = true ↔
      dividend.isNaN = true ∨ divisor.isNaN = true ∨
        ((dividend == 0.0) = true ∧ (divisor == 0.0) = true) ∨
        (dividend.isInf = true ∧ divisor.isInf = true) := by
  simp only [isNaN_iff, isInf_iff, eq_zero_iff, unpack_div, stored_eq_notANumber_iff]
  cases unpack dividend <;> cases unpack divisor <;>
    simp [UnpackedFloat.div, roundWithAccuracy_ne_notANumber]

/-- Taking away a number with a value leaves a number, unless there was none. -/
theorem isNaN_sub_of_isFinite (minuend : Float) {subtrahend : Float}
    (finite : isFinite subtrahend) :
    (minuend - subtrahend).isNaN = true ↔ minuend.isNaN = true := by
  rw [isFinite_eq] at finite
  simp only [isNaN_iff, unpack_sub, stored_eq_notANumber_iff]
  cases parts : unpack subtrahend with
  | notANumber => simp [parts, UnpackedFloat.isFinite] at finite
  | infinity sign => simp [parts, UnpackedFloat.isFinite] at finite
  | zero sign =>
    cases unpack minuend <;> simp only [UnpackedFloat.sub, reduceCtorEq]
    split <;> simp
  | finite sign significand exponent positive =>
    cases unpack minuend <;> simp only [UnpackedFloat.sub, reduceCtorEq]
    exact iff_of_false (normalize_ne_notANumber _ _) not_false

/-- The least of some numbers is a number, and so is what stands for the least of none. -/
theorem isNaN_least (numbers : List Float) : (Scalar.least numbers).isNaN = false := by
  rw [Scalar.least]
  cases filtered : numbers.filter Scalar.isNumber with
  | nil =>
    change ((1.0 : Float) / 0.0).isNaN = false
    decide +kernel
  | cons first rest =>
    have valued : ∀ number ∈ first :: rest, number.isNaN = false := by
      intro number member
      rw [← filtered, List.mem_filter] at member
      simpa [Scalar.isNumber] using member.2
    obtain ⟨firstValued, restValued⟩ := List.forall_mem_cons.1 valued
    exact (foldl_bounds lesser_bounds restValued first firstValued).1

end BenchFigures.Binary64
