import BenchFigures.Proofs.NotANumber

/-!
# Binary64 numbers on the extended line

A number with a value stands for that value, and an infinite one for an end of the extended real
line. Comparing numbers is comparing what they stand for. It comes down to one fact about what
is stored: of two significands, the one with the greater exponent is the greater value, as it
fills 53 bits unless its exponent is the least one.
-/

namespace BenchFigures.Binary64

open Float.Model Float.Model.UnpackedFloat

/-! ### Scaled significands -/

/-- A scaled significand is the significand times a power of two. -/
theorem scaled_eq (significand : Nat) (exponent : Int) :
    scaled significand exponent = significand * (2 : Rat) ^ exponent := by
  rw [scaled]
  split
  · rename_i whole
    obtain ⟨power, rfl⟩ := Int.eq_ofNat_of_zero_le whole
    simp
  · rename_i fraction
    obtain ⟨power, same⟩ := Int.eq_ofNat_of_zero_le (by omega : 0 ≤ -exponent)
    obtain rfl : exponent = -(power : Int) := by omega
    rw [Rat.mkRat_eq_div, zpow_neg, zpow_natCast, Int.neg_neg, Int.toNat_natCast, Nat.pow_eq]
    push_cast
    exact div_eq_mul_inv _ _

/-- A scaled positive significand is positive. -/
theorem scaled_pos {significand : Nat} (positive : 0 < significand) (exponent : Int) :
    0 < scaled significand exponent := by
  rw [scaled_eq]
  exact mul_pos (Nat.cast_pos.2 positive) (zpow_pos two_pos _)

/-- At one exponent, the greater significand is the greater value. -/
theorem scaled_lt_of_significand {significand significand' : Nat} (exponent : Int)
    (less : significand < significand') :
    scaled significand exponent < scaled significand' exponent := by
  rw [scaled_eq, scaled_eq]
  exact mul_lt_mul_of_pos_right (Nat.cast_lt.2 less) (zpow_pos two_pos _)

/-- Of what is storable, what has the greater exponent is the greater value. -/
theorem Storable.scaled_lt {significand significand' : Nat} {exponent exponent' : Int}
    (storable : Storable significand exponent) (storable' : Storable significand' exponent')
    (less : exponent < exponent') :
    scaled significand exponent < scaled significand' exponent' := by
  have filled : 2 ^ 52 ≤ significand' := by
    rcases storable'.filled with bottom | filled
    · have := storable.least
      omega
    · exact filled
  rw [scaled_eq, scaled_eq]
  calc (significand : Rat) * 2 ^ exponent
      < (2 ^ 53 : Nat) * (2 : Rat) ^ exponent :=
        mul_lt_mul_of_pos_right (Nat.cast_lt.2 storable.short) (zpow_pos two_pos _)
    _ = (2 ^ 52 : Nat) * (2 : Rat) ^ (exponent + 1) := by
        rw [zpow_add_one₀ two_ne_zero]
        push_cast
        ring
    _ ≤ (2 ^ 52 : Nat) * (2 : Rat) ^ exponent' :=
        mul_le_mul_of_nonneg_left (zpow_le_zpow_right₀ one_le_two less) (Nat.cast_nonneg _)
    _ ≤ significand' * (2 : Rat) ^ exponent' :=
        mul_le_mul_of_nonneg_right (Nat.cast_le.2 filled) (zpow_nonneg two_pos.le _)

/-! ### The extended line -/

/-- What a number stands for on the extended real line: its value if it has one, and else the
end of the line on its side. Nothing is said below of what is no number, which is put at the
upper end. -/
noncomputable def extended (number : Float) : EReal :=
  match value? number with
  | some value => ((value : ℝ) : EReal)
  | none => if isNegative number then ⊥ else ⊤

/-- A number with a value stands for it. -/
theorem extended_of_value? {number : Float} {value : Rat} (valued : value? number = some value) :
    extended number = ((value : ℝ) : EReal) := by
  rw [extended, valued]

theorem extended_zero : extended (Scalar.ofInt 0) = 0 := by
  have value : value? (Scalar.ofInt 0) = some 0 := by decide +kernel
  rw [extended_of_value? value]
  norm_num

/-- Parts of greater rank stand for a greater point. -/
theorem extended_lt_of_rank_lt {first second : Float} (firstNumber : first.isNaN = false)
    (secondNumber : second.isNaN = false) (less : rank (unpack first) < rank (unpack second)) :
    extended first < extended second := by
  rw [← unpack_ne_notANumber_iff] at firstNumber secondNumber
  rcases parts : unpack first with (_ | _) | _ | _ | ⟨_ | _, m, e, positive⟩ <;>
    rcases parts' : unpack second with (_ | _) | _ | _ | ⟨_ | _, n, f, positive'⟩ <;>
    simp [parts, parts', rank, Prod.Lex.toLex_lt_toLex, extended, value?, isNegative]
      at firstNumber secondNumber less ⊢
  case infinity.negative.finite.negative => exact EReal.bot_lt_coe (-(scaled n f : ℝ))
  case zero.finite.positive => exact scaled_pos positive' f
  case finite.negative.infinity.positive => exact EReal.coe_lt_top (-(scaled m e : ℝ))
  case finite.negative.zero => exact scaled_pos positive e
  case finite.negative.finite.positive =>
    exact_mod_cast (neg_neg_of_pos (scaled_pos positive e)).trans (scaled_pos positive' f)
  case finite.negative.finite.negative =>
    have storable := (storable_of_unpack parts).1
    rcases less with exponents | ⟨rfl, significands⟩
    · exact (storable_of_unpack parts').1.scaled_lt storable exponents
    · exact scaled_lt_of_significand _ significands
  case finite.positive.finite.positive =>
    have storable := (storable_of_unpack parts).1
    rcases less with exponents | ⟨rfl, significands⟩
    · exact storable.scaled_lt (storable_of_unpack parts').1 exponents
    · exact scaled_lt_of_significand _ significands

/-- Parts of one rank stand for one point. -/
theorem extended_eq_of_rank_eq {first second : Float} (firstNumber : first.isNaN = false)
    (secondNumber : second.isNaN = false) (same : rank (unpack first) = rank (unpack second)) :
    extended first = extended second := by
  rw [← unpack_ne_notANumber_iff] at firstNumber secondNumber
  rcases parts : unpack first with (_ | _) | _ | _ | ⟨_ | _, m, e, positive⟩ <;>
    rcases parts' : unpack second with (_ | _) | _ | _ | ⟨_ | _, n, f, positive'⟩ <;>
    simp_all [rank, extended, value?, isNegative]

/-- Numbers are ordered as what they stand for. -/
theorem lt_iff_extended {first second : Float} (firstNumber : first.isNaN = false)
    (secondNumber : second.isNaN = false) : first < second ↔ extended first < extended second := by
  rw [lt_iff_rank firstNumber secondNumber]
  constructor
  · exact extended_lt_of_rank_lt firstNumber secondNumber
  · intro less
    rcases lt_trichotomy (rank (unpack first)) (rank (unpack second)) with below | same | above
    · exact below
    · exact absurd (extended_eq_of_rank_eq firstNumber secondNumber same) less.ne
    · exact absurd (extended_lt_of_rank_lt secondNumber firstNumber above) less.asymm

/-- Numbers are ordered as what they stand for. -/
theorem le_iff_extended {first second : Float} (firstNumber : first.isNaN = false)
    (secondNumber : second.isNaN = false) : first ≤ second ↔ extended first ≤ extended second := by
  rw [← not_lt, ← lt_iff_extended secondNumber firstNumber,
    ← not_le_iff_lt secondNumber firstNumber, not_not]

end BenchFigures.Binary64
