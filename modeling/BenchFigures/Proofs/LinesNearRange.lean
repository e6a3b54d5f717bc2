import BenchFigures.Proofs.LineNumbers

/-!
# Gridlines outside the range

The lines of a grid are at most a step outside its range as long as their numbers have at most 53
bits. The limit on lines says nothing about the size of the numbers, though. With up to 64 bits,
the quotients are rounded by several steps, but not by thousands of them. Then the numbers are held
to 64 bits before the lines are made: beyond that, all numbers of a range come to the same one, and
what is drawn is a single line, far away from the range.
-/

namespace BenchFigures

/-! ### What the bounds are -/

namespace Binary64

/-- A quotient only has a value if the dividend has one, and then it is the quotient of the
values, rounded. -/
theorem value?_of_div {dividend divisor : Float} {width value : Rat}
    (valued : value? divisor = some width) (nonzero : width ≠ 0)
    (computed : value? (dividend / divisor) = some value) :
    ∃ edge, value? dividend = some edge ∧ value = rounded (edge / width) := by
  have finite : isFinite dividend = true := isFinite_of_div (by rw [isFinite, computed]; rfl)
  obtain ⟨edge, known⟩ := Option.isSome_iff_exists.1 finite
  exact ⟨edge, known, (isNearest_div known valued nonzero).value_eq computed⟩

/-- The integers at or above a rational are those above it in either definition. -/
theorem ceil_eq (value : Rat) : value.ceil = ⌈value⌉ :=
  eq_of_forall_ge_iff fun _ => Rat.ceil_le_iff.trans Int.ceil_le.symm

theorem floor_eq (value : Rat) : value.floor = ⌊value⌋ :=
  eq_of_forall_le_iff fun _ => Rat.le_floor_iff.trans Int.le_floor.symm

end Binary64

namespace Grid

open Binary64

/-- The value of the tolerance. -/
def slack : Rat := (value? tolerance).getD 0

theorem value?_tolerance : value? tolerance = some slack := by decide +kernel

theorem slack_pos : 0 < slack := by decide +kernel

theorem slack_lt : slack < 1 / 2 := by decide +kernel

/-- The values of the ends of a range and of a step, which is positive. -/
structure Measures (low high step : Float) (lower upper width : Rat) : Prop where
  low : value? low = some lower
  high : value? high = some upper
  step : value? step = some width
  positive : 0 < width

/-- The first and the last number of a line, by the values of the range and of the step. -/
structure Numbers (lower upper width : Rat) (first last : Int) : Prop where
  ceil_eq : ⌈rounded (rounded (lower / width) - slack)⌉ = first
  floor_eq : ⌊rounded (rounded (upper / width) + slack)⌋ = last
  few : last - first < limit

section Bounds

variable {low high step : Float} {first last : Int}

/-- A step that is not refused has a positive value. -/
theorem value_of_good
    (good : ¬ (!Scalar.isFinite step || Scalar.le step (Scalar.ofInt 0)) = true) :
    ∃ width, value? step = some width ∧ 0 < width := by
  rw [Bool.not_eq_true, Bool.or_eq_false_iff, Bool.not_eq_false'] at good
  obtain ⟨finite, above⟩ := good
  have known : (value? step).isSome = true := by
    change ((value? step).map Rat.floor).isSome = true at finite
    rwa [Option.isSome_map] at finite
  obtain ⟨width, valued⟩ := Option.isSome_iff_exists.1 known
  have notBelow : ¬ step ≤ Scalar.ofInt 0 := of_decide_eq_false above
  rw [le_iff_extended (isNearest_of_value? valued).isNumber (by decide +kernel), extended_zero,
    extended_of_value? valued, not_le] at notBelow
  exact ⟨width, valued, by exact_mod_cast notBelow⟩

/-- The first number comes from the value of the lower end. -/
theorem value_of_first {width : Rat} (valued : value? step = some width) (nonzero : width ≠ 0)
    (above : Scalar.ceil? (low / step - tolerance) = some first) :
    ∃ lower, value? low = some lower ∧ ⌈rounded (rounded (lower / width) - slack)⌉ = first := by
  obtain ⟨moved, computed, same⟩ := Option.map_eq_some_iff.1 above
  have finite : isFinite (low / step) = true := isFinite_of_sub (by rw [isFinite, computed]; rfl)
  obtain ⟨quotient, divided⟩ := Option.isSome_iff_exists.1 finite
  obtain ⟨lower, known, rfl⟩ := value?_of_div valued nonzero divided
  obtain rfl := (isNearest_sub divided value?_tolerance).value_eq computed
  exact ⟨lower, known, by rw [← Binary64.ceil_eq, same]⟩

/-- The last number comes from the value of the upper end. -/
theorem value_of_last {width : Rat} (valued : value? step = some width) (nonzero : width ≠ 0)
    (below : Scalar.floor? (high / step + tolerance) = some last) :
    ∃ upper, value? high = some upper ∧ ⌊rounded (rounded (upper / width) + slack)⌋ = last := by
  obtain ⟨moved, computed, same⟩ := Option.map_eq_some_iff.1 below
  have finite : isFinite (high / step) = true := isFinite_of_add (by rw [isFinite, computed]; rfl)
  obtain ⟨quotient, divided⟩ := Option.isSome_iff_exists.1 finite
  obtain ⟨upper, known, rfl⟩ := value?_of_div valued nonzero divided
  obtain rfl := (isNearest_add divided value?_tolerance).value_eq computed
  exact ⟨upper, known, by rw [← Binary64.floor_eq, same]⟩

/-- Bounds are the numbers of lines for the values of the range and of the step. -/
theorem exists_values_of_bounds (bounded : bounds low high step = .ok (first, last)) :
    ∃ lower upper width, Measures low high step lower upper width ∧
      Numbers lower upper width first last := by
  rw [bounds] at bounded
  split at bounded
  · cases bounded
  · rename_i good
    obtain ⟨width, valued, positive⟩ := value_of_good good
    split at bounded
    · rename_i above below
      split at bounded
      · cases bounded
      · rename_i few
        obtain ⟨rfl, rfl⟩ := Prod.mk.inj (Except.ok.inj bounded)
        obtain ⟨lower, known, ceiling⟩ := value_of_first valued positive.ne' above
        obtain ⟨upper, known', flooring⟩ := value_of_last valued positive.ne' below
        exact ⟨lower, upper, width, ⟨known, known', valued, positive⟩, ceiling, flooring,
          not_le.1 few⟩
    · cases bounded

/-- The lines of a range are the multiples of the step from its first to its last number, held to
64 bits. -/
theorem lines_eq_ok_iff {drawn : List Float} :
    lines low high step = .ok drawn ↔
      ∃ first last, bounds low high step = .ok (first, last) ∧
        drawn = (between (heldToSigned64 first) (heldToSigned64 last)).map
          fun number => Scalar.ofInt number * step := by
  rw [lines]
  cases bounds low high step with
  | error fault => simp [bind, Except.bind]
  | ok ends =>
    obtain ⟨first, last⟩ := ends
    simp [bind, Except.bind, pure, Except.pure, eq_comm]

end Bounds

/-! ### Numbers of at most 53 bits -/

section Exact

variable {lower upper width : Rat} {first last : Int}

/-- Lines with short numbers are at most a step outside the range. -/
theorem Numbers.within (numbers : Numbers lower upper width first last) (positive : 0 < width)
    {number : Int} (above : first ≤ number) (below : number ≤ last) (low : -2 ^ 53 < first)
    (high : last < 2 ^ 53) :
    lower - width ≤ number * width ∧ number * width ≤ upper + width := by
  obtain ⟨-, near⟩ := near_of_ceil (abs_lt.2 ⟨low, by omega⟩) slack_pos slack_lt numbers.ceil_eq
  obtain ⟨near', -⟩ := near_of_floor (abs_lt.2 ⟨by omega, high⟩) slack_pos slack_lt
    numbers.floor_eq
  have casted : (first : Rat) ≤ number := Int.cast_le.2 above
  have casted' : (number : Rat) ≤ last := Int.cast_le.2 below
  rw [div_lt_iff₀ positive] at near
  rw [lt_div_iff₀ positive] at near'
  have scaled := mul_le_mul_of_nonneg_right casted positive.le
  have scaled' := mul_le_mul_of_nonneg_right casted' positive.le
  constructor <;> linarith

/-- The last number is at most one less than the first, unless the range is reversed. -/
theorem Numbers.first_le (numbers : Numbers lower upper width first last) (positive : 0 < width)
    (ordered : lower ≤ upper) : first ≤ last + 1 := by
  have divided := rounded_mono (div_le_div_of_nonneg_right ordered positive.le)
  have moved : rounded (rounded (lower / width) - slack) ≤
      rounded (rounded (upper / width) + slack) :=
    rounded_mono (by linarith [slack_pos])
  obtain ⟨ceiling, flooring, -⟩ := numbers
  have above := (Int.ceil_eq_iff.1 ceiling).1
  have below := (Int.floor_eq_iff.1 flooring).2
  have casted : (first : Rat) < (last + 2 : Int) := by
    push_cast
    linarith
  have less : first < last + 2 := by exact_mod_cast casted
  omega

end Exact

/-! ### Numbers held to 64 bits -/

theorem heldToSigned64_eq (number : Int) :
    heldToSigned64 number = max (-2 ^ 63) (min number (2 ^ 63 - 1)) := by
  have lowest : (-Nat.pow 2 63 : Int) = -2 ^ 63 := by decide
  have highest : (Nat.pow 2 63 : Int) = 2 ^ 63 := by decide
  rw [heldToSigned64, lowest, highest]

/-- Numbers beyond 64 bits are held to the greatest one. -/
theorem heldToSigned64_of_ge {number : Int} (great : 2 ^ 63 - 1 ≤ number) :
    heldToSigned64 number = 2 ^ 63 - 1 := by
  rw [heldToSigned64_eq]
  omega

/-- Numbers beyond 64 bits are held to the least one. -/
theorem heldToSigned64_of_le {number : Int} (less : number ≤ -2 ^ 63) :
    heldToSigned64 number = -2 ^ 63 := by
  rw [heldToSigned64_eq]
  omega

/-- What is between numbers held to 64 bits fits in them. -/
theorem fits_of_held {first last number : Int} (above : heldToSigned64 first ≤ number)
    (below : number ≤ heldToSigned64 last) : FitsSigned64 number := by
  rw [heldToSigned64_eq] at above below
  constructor <;> omega

/-- There is one integer from a number to itself. -/
theorem between_self (number : Int) : between number number = [number] := by
  rw [between, show (number + 1 - number).toNat = 1 by omega]
  simp

/-- A number of 64 bits is rounded to a value that is at most 1024 away. -/
theorem value?_of_fits {number : Int} (fits : FitsSigned64 number) :
    value? (Scalar.ofInt number) = some (rounded number) ∧
      |(number : Rat) - rounded number| ≤ 2 ^ 11 / 2 := by
  have least : (-2 ^ 63 : Rat) ≤ number := by exact_mod_cast fits.1
  have most : (number : Rat) < 2 ^ 63 := by exact_mod_cast fits.2
  have short : |(number : Rat)| < 2 ^ 64 := by
    rw [abs_lt]
    constructor <;> linarith
  have moved := abs_sub_rounded_le_of_lt 11 short
  refine ⟨(isNearest_ofInt number).value?_of_lt ?_, moved⟩
  obtain ⟨above, below⟩ := abs_le.1 moved
  have far : (2 : Rat) ^ 65 < overflow := by decide +kernel
  rw [abs_lt]
  constructor <;> linarith

section Held

variable {lower upper width : Rat} {first last : Int}

/-- Lines with numbers of up to 64 bits are at most 4096 steps outside the range. -/
theorem Numbers.within_held (numbers : Numbers lower upper width first last) (positive : 0 < width)
    (low : -2 ^ 63 ≤ last) (high : first ≤ 2 ^ 63) {number : Int}
    (above : heldToSigned64 first ≤ number) (below : number ≤ heldToSigned64 last) :
    lower - 2 ^ 12 * width ≤ rounded number * width ∧
      rounded number * width ≤ upper + 2 ^ 12 * width := by
  have few : last - first ≤ 999 := Int.lt_add_one_iff.1 numbers.few
  obtain ⟨moved, moved'⟩ := abs_le.1 (value?_of_fits (fits_of_held above below)).2
  obtain ⟨near, -⟩ := abs_lt.1
    (close_of_ceil slack_pos slack_lt numbers.ceil_eq (by omega) high)
  obtain ⟨-, near'⟩ := abs_lt.1
    (close_of_floor slack_pos slack_lt numbers.floor_eq low (by omega))
  rw [heldToSigned64_eq] at above below
  have casted : (first : Rat) - 1 ≤ number := by exact_mod_cast (by omega : first - 1 ≤ number)
  have casted' : (number : Rat) ≤ last := Int.cast_le.2 (by omega)
  have reached : lower / width - 2 ^ 12 ≤ rounded number := by linarith
  have reached' : rounded number ≤ upper / width + 2 ^ 12 := by linarith
  constructor
  · rwa [← div_le_iff₀ positive, sub_div, mul_div_cancel_right₀ _ positive.ne']
  · rwa [← le_div_iff₀ positive, add_div, mul_div_cancel_right₀ _ positive.ne']

end Held

/-! ### Numbers beyond 64 bits -/

section Beyond

variable {low high step : Float} {lower upper width : Rat}

/-- The line that stands for all numbers above 64 bits is more than a step below a range that is
so far up. -/
theorem Measures.line_lt (measures : Measures low high step lower upper width)
    (beyond : 2 ^ 63 < lower / width) : Scalar.ofInt (2 ^ 63 - 1) * step < low - step := by
  have greatest : value? (Scalar.ofInt (2 ^ 63 - 1)) = some (2 ^ 63) := by decide +kernel
  rw [lt_div_iff₀ measures.positive] at beyond
  have kept := rounded_of_value? measures.low
  have kept' := rounded_of_value? measures.step
  have line := rounded_two_pow_mul kept' measures.positive 63
  have positive : 0 < 2 ^ 63 * width := mul_pos (by norm_num) measures.positive
  apply (isNearest_mul greatest measures.step).lt (isNearest_sub measures.low measures.step)
  · rw [line]
    exact lt_rounded_sub_of_beyond kept kept' measures.positive beyond
  · left
    rw [line, abs_of_pos positive]
    exact beyond.trans ((le_abs_self lower).trans_lt (abs_lt_overflow measures.low))

/-- The line that stands for all numbers below 64 bits is more than a step above a range that is
so far down. -/
theorem Measures.lt_line (measures : Measures low high step lower upper width)
    (beyond : upper / width < -2 ^ 63) : high + step < Scalar.ofInt (-2 ^ 63) * step := by
  have least : value? (Scalar.ofInt (-2 ^ 63)) = some (-2 ^ 63) := by decide +kernel
  rw [div_lt_iff₀ measures.positive, neg_mul, lt_neg] at beyond
  have kept := rounded_of_value? measures.high
  have kept' := rounded_of_value? measures.step
  have line := rounded_two_pow_mul kept' measures.positive 63
  have positive : 0 < 2 ^ 63 * width := mul_pos (by norm_num) measures.positive
  have apart := lt_rounded_sub_of_beyond (by rw [rounded_neg, kept]) kept' measures.positive beyond
  rw [← neg_add', rounded_neg] at apart
  apply (isNearest_add measures.high measures.step).lt (isNearest_mul least measures.step)
  · rw [neg_mul, rounded_neg, line]
    exact lt_neg.1 apart
  · right
    rw [neg_mul, rounded_neg, line, abs_neg, abs_of_pos positive]
    exact beyond.trans ((neg_le_abs upper).trans_lt (abs_lt_overflow measures.high))

end Beyond

/-! ### Lines and their range -/

/-- The gridlines of a range, however large the numbers of its lines are. If they are of at most
53 bits, all lines are at most a step outside the range. If they are of up to 64 bits, lines may be
further outside, but by at most 4096 steps. If they are beyond 64 bits, they are held to that, and
there is one line, more than a step outside the range. -/
theorem lines_near_range (low high step : Float) (ordered : low ≤ high) (drawn : List Float)
    (computed : lines low high step = .ok drawn) :
    ∃ first last, bounds low high step = .ok (first, last) ∧
      (-2 ^ 53 < first → last < 2 ^ 53 →
        ∀ line ∈ drawn, low - step ≤ line ∧ line ≤ high + step) ∧
      (first ≤ 2 ^ 63 → -2 ^ 63 ≤ last →
        ∀ line ∈ drawn, low - 4096.0 * step ≤ line ∧ line ≤ high + 4096.0 * step) ∧
      (2 ^ 63 < first → ∃ line, drawn = [line] ∧ line < low - step) ∧
      (last < -2 ^ 63 → ∃ line, drawn = [line] ∧ high + step < line) := by
  obtain ⟨first, last, bounded, rfl⟩ := lines_eq_ok_iff.1 computed
  obtain ⟨lower, upper, width, measures, numbers⟩ := exists_values_of_bounds bounded
  have values : lower ≤ upper := by
    rw [le_iff_extended (isNearest_of_value? measures.low).isNumber
      (isNearest_of_value? measures.high).isNumber, extended_of_value? measures.low,
      extended_of_value? measures.high] at ordered
    exact_mod_cast ordered
  have close := numbers.first_le measures.positive values
  refine ⟨first, last, bounded, ?_, ?_, ?_, ?_⟩
  · intro above below line member
    obtain ⟨number, listed, rfl⟩ := List.mem_map.1 member
    rw [heldToSigned64_of_fits ⟨by omega, by omega⟩, heldToSigned64_of_fits ⟨by omega, by omega⟩,
      mem_between] at listed
    obtain ⟨lowEnough, highEnough⟩ :=
      numbers.within measures.positive listed.1 listed.2 above below
    have short : |number| ≤ 2 ^ 53 := abs_le.2 ⟨by omega, by omega⟩
    have product := isNearest_mul ((isNearest_ofInt number).value?_of_short short) measures.step
    exact ⟨(isNearest_sub measures.low measures.step).le product lowEnough,
      product.le (isNearest_add measures.high measures.step) highEnough⟩
  · intro high low line member
    obtain ⟨number, listed, rfl⟩ := List.mem_map.1 member
    rw [mem_between] at listed
    obtain ⟨lowEnough, highEnough⟩ :=
      numbers.within_held measures.positive low high listed.1 listed.2
    have counted := (value?_of_fits (fits_of_held listed.1 listed.2)).1
    have product := isNearest_mul counted measures.step
    have many : value? 4096.0 = some (2 ^ 12) := by decide +kernel
    have distance := isNearest_mul many measures.step
    have kept := rounded_two_pow_mul (rounded_of_value? measures.step) measures.positive 12
    have apart : 0 < 2 ^ 12 * width := mul_pos (by norm_num) measures.positive
    exact ⟨(within_distance measures.low distance kept apart product).1 lowEnough,
      (within_distance measures.high distance kept apart product).2 highEnough⟩
  · intro far
    rw [heldToSigned64_of_ge (by omega), heldToSigned64_of_ge (by omega), between_self]
    exact ⟨_, rfl, measures.line_lt (beyond_of_ceil slack_pos numbers.ceil_eq far)⟩
  · intro far
    rw [heldToSigned64_of_le (by omega), heldToSigned64_of_le (by omega), between_self]
    exact ⟨_, rfl, measures.lt_line (beyond_of_floor slack_pos numbers.floor_eq far)⟩

/-- A range from 10 to 50 has its lines inside. A range at two to the power of 60 may have one
several steps outside, and a range at 1e300 only has one far below it. -/
theorem lines_near_range_fifty :
    (∃ drawn, lines (10.0 : Float) 50.0 20.0 = .ok drawn ∧
      ∀ line ∈ drawn, (10.0 : Float) - 20.0 ≤ line ∧ line ≤ (50.0 : Float) + 20.0) ∧
    (∃ line, lines (1152921504606846976.0 : Float) 1152921504606846976.0 49.0 = .ok [line] ∧
      line < (1152921504606846976.0 : Float) - 49.0 ∧
      (1152921504606846976.0 : Float) - 4096.0 * 49.0 ≤ line) ∧
    ∃ line, lines (1e300 : Float) 1e300 1.0 = .ok [line] ∧ line < (1e300 : Float) - 1.0 := by
  have inside : lines (10.0 : Float) 50.0 20.0 = .ok [20.0, 40.0] := by decide +kernel
  have near : lines (1152921504606846976.0 : Float) 1152921504606846976.0 49.0 =
      .ok [1152921504606846848.0] := by decide +kernel
  have far : lines (1e300 : Float) 1e300 1.0 = .ok [9223372036854775808.0] := by decide +kernel
  refine ⟨⟨_, inside, ?_⟩, ⟨_, near, by decide +kernel, ?_⟩, ?_⟩
  · obtain ⟨first, last, bounded, within, -, -, -⟩ :=
      lines_near_range 10.0 50.0 20.0 (by decide +kernel) _ inside
    have counted : bounds (10.0 : Float) 50.0 20.0 = .ok (1, 2) := by decide +kernel
    obtain ⟨rfl, rfl⟩ : first = 1 ∧ last = 2 := by simpa using bounded.symm.trans counted
    exact within (by decide) (by decide)
  · obtain ⟨first, last, bounded, -, within, -, -⟩ :=
      lines_near_range 1152921504606846976.0 1152921504606846976.0 49.0 (by decide +kernel) _ near
    have fits : (bounds (1152921504606846976.0 : Float) 1152921504606846976.0 49.0).toOption.all
        (fun ends => decide (ends.1 ≤ 2 ^ 63) && decide (-2 ^ 63 ≤ ends.2)) = true := by
      decide +kernel
    rw [bounded] at fits
    obtain ⟨high, low⟩ := Bool.and_eq_true_iff.1 fits
    exact (within (of_decide_eq_true high) (of_decide_eq_true low) _ List.mem_cons_self).1
  · obtain ⟨first, last, bounded, -, -, beyond, -⟩ :=
      lines_near_range 1e300 1e300 1.0 (by decide +kernel) _ far
    have great : (bounds (1e300 : Float) 1e300 1.0).toOption.all
        (fun ends => decide (2 ^ 63 < ends.1)) = true := by decide +kernel
    rw [bounded] at great
    obtain ⟨line, only, below⟩ := beyond (of_decide_eq_true great)
    exact ⟨line, far.trans (congrArg _ only), below⟩

/-- A line may be more than a step outside its range. -/
theorem not_lines_always_near :
    ¬ ∀ (low high step : Float) (drawn : List Float), low ≤ high →
      lines low high step = .ok drawn → ∀ line ∈ drawn, low - step ≤ line ∧ line ≤ high + step := by
  intro always
  have far : lines (1e300 : Float) 1e300 1.0 = .ok [9223372036854775808.0] := by decide +kernel
  have near := always 1e300 1e300 1.0 _ (by decide +kernel) far _ (List.mem_singleton.2 rfl)
  have below : ¬ (1e300 : Float) - 1.0 ≤ 9223372036854775808.0 := by decide +kernel
  exact below near.1

end Grid

end BenchFigures
