import BenchFigures.Number.Scalar
import Mathlib

/-!
# Comparing and computing with binary64 numbers

A number without a value, infinite or not a number, keeps having none whatever is
added, subtracted or divided by. Numbers with a value are ordered: of two of them, one
is less than the other or at most equal to it.
-/

namespace BenchFigures.Binary64

open Float.Model (UnpackedFloat Format)

/-! ### Order -/

/-- Where parts stand among all parts that are numbers: their sign and whether they are
infinite, then the exponent, then the significand. -/
def rank : UnpackedFloat → Int ×ₗ Int ×ₗ Int
  | .notANumber | .zero _ => toLex (0, toLex (0, 0))
  | .infinity .positive => toLex (2, toLex (0, 0))
  | .infinity .negative => toLex (-2, toLex (0, 0))
  | .finite .positive significand exponent _ => toLex (1, toLex (exponent, (significand : Int)))
  | .finite .negative significand exponent _ =>
    toLex (-1, toLex (-exponent, -(significand : Int)))

/-- Negation turns comparisons of integers round. -/
theorem compare_neg (first second : Int) : compare (-first) (-second) = compare second first := by
  rcases lt_trichotomy first second with less | rfl | greater
  · rw [compare_gt_iff_gt.2 less, compare_gt_iff_gt.2 (Int.neg_lt_neg less)]
  · rw [compare_eq_iff_eq.2 rfl, compare_eq_iff_eq.2 rfl]
  · rw [compare_lt_iff_lt.2 greater, compare_lt_iff_lt.2 (Int.neg_lt_neg greater)]

/-- Parts that are numbers compare as their ranks do. -/
theorem compare_eq_rank {first second : UnpackedFloat} (firstNumber : first ≠ .notANumber)
    (secondNumber : second ≠ .notANumber) :
    first.compare second = some (compare (rank first) (rank second)) := by
  have lexicographic (a b c a' b' c' : Int) :
      compare (toLex (a, toLex (b, c))) (toLex (a', toLex (b', c'))) =
        (compare a a').then ((compare b b').then (compare c c')) := rfl
  have casted (m n : Nat) : compare (m : Int) (n : Int) = compare m n := by
    rcases lt_trichotomy m n with less | rfl | greater
    · rw [compare_lt_iff_lt.2 less, compare_lt_iff_lt.2 (Int.ofNat_lt.2 less)]
    · rw [compare_eq_iff_eq.2 rfl, compare_eq_iff_eq.2 rfl]
    · rw [compare_gt_iff_gt.2 greater, compare_gt_iff_gt.2 (Int.ofNat_lt.2 greater)]
  rcases first with (_ | _) | _ | _ | ⟨_ | _, m, e, _⟩ <;>
    rcases second with (_ | _) | _ | _ | ⟨_ | _, n, f, _⟩ <;>
    first
    | rfl
    | exact absurd rfl firstNumber
    | exact absurd rfl secondNumber
    | simp only [UnpackedFloat.compare, rank, lexicographic, compare_neg, casted,
        Ordering.swap_then, Int.compare_swap, Nat.compare_swap]
      rfl

/-- The parts of a number are a number's parts. -/
theorem unpack_ne_notANumber_iff (number : Float) :
    unpack number ≠ .notANumber ↔ number.isNaN = false := by
  have same : number.isNaN = (unpack number).isNaN := rfl
  rw [same]
  cases unpack number <;> simp [UnpackedFloat.isNaN]

/-- Numbers are ordered by their ranks. -/
theorem lt_iff_rank {first second : Float} (firstNumber : first.isNaN = false)
    (secondNumber : second.isNaN = false) :
    first < second ↔ rank (unpack first) < rank (unpack second) := by
  change decide (first.toModel < second.toModel) = true ↔ _
  rw [decide_eq_true_iff]
  change ((unpack first).compare (unpack second) == some .lt) = true ↔ _
  rw [compare_eq_rank ((unpack_ne_notANumber_iff first).2 firstNumber)
    ((unpack_ne_notANumber_iff second).2 secondNumber), beq_iff_eq, Option.some_inj,
    compare_lt_iff_lt]

/-- Numbers are ordered by their ranks. -/
theorem le_iff_rank {first second : Float} (firstNumber : first.isNaN = false)
    (secondNumber : second.isNaN = false) :
    first ≤ second ↔ rank (unpack first) ≤ rank (unpack second) := by
  change decide (first.toModel ≤ second.toModel) = true ↔ _
  rw [decide_eq_true_iff]
  change ((unpack first).compare (unpack second)).any Ordering.isLE = true ↔ _
  rw [compare_eq_rank ((unpack_ne_notANumber_iff first).2 firstNumber)
    ((unpack_ne_notANumber_iff second).2 secondNumber), Option.any_some, Ordering.isLE_iff_ne_gt,
    ← not_lt, not_iff_not, compare_gt_iff_gt]

/-- What is not a number is not compared. -/
theorem isNaN_eq_false_of_compare {first second : Float} {order : Ordering}
    (compared : (unpack first).compare (unpack second) = some order) :
    first.isNaN = false ∧ second.isNaN = false := by
  rw [← unpack_ne_notANumber_iff, ← unpack_ne_notANumber_iff]
  constructor
  · rintro missing
    simp [missing, UnpackedFloat.compare] at compared
  · rintro missing
    cases parts : unpack first <;> simp [missing, parts, UnpackedFloat.compare] at compared

/-- What is less than something is a number, and so is the other. -/
theorem isNaN_eq_false_of_lt {first second : Float} (less : first < second) :
    first.isNaN = false ∧ second.isNaN = false := by
  have compared : ((unpack first).compare (unpack second) == some .lt) = true :=
    of_decide_eq_true less
  exact isNaN_eq_false_of_compare (beq_iff_eq.1 compared)

/-- What is less than another number is also at most that number. -/
theorem le_of_lt {first second : Float} (less : first < second) : first ≤ second := by
  obtain ⟨firstNumber, secondNumber⟩ := isNaN_eq_false_of_lt less
  rw [le_iff_rank firstNumber secondNumber]
  exact ((lt_iff_rank firstNumber secondNumber).1 less).le

/-- Of two numbers, the second is at most the first exactly if the first is not less. -/
theorem not_le_iff_lt {first second : Float} (firstNumber : first.isNaN = false)
    (secondNumber : second.isNaN = false) : ¬ second ≤ first ↔ first < second := by
  rw [le_iff_rank secondNumber firstNumber, lt_iff_rank firstNumber secondNumber, not_le]

/-- A number has a value exactly if its parts are finite. -/
theorem isFinite_eq (number : Float) : isFinite number = (unpack number).isFinite := by
  rw [isFinite, value?]
  rcases unpack number with _ | _ | _ | ⟨_ | _, _, _, _⟩ <;> rfl

/-- What has a value is a number. -/
theorem isNaN_eq_false {number : Float} (finite : isFinite number) : number.isNaN = false := by
  rw [isFinite_eq] at finite
  rw [← unpack_ne_notANumber_iff]
  intro missing
  rw [missing] at finite
  exact absurd finite Bool.false_ne_true

/-! ### Computing without a value -/

/-- The parts of what is stored when the outcome of an operation has these parts. -/
def stored (parts : UnpackedFloat) : UnpackedFloat :=
  UnpackedFloat.unpack Format.binary64 (UnpackedFloat.pack Format.binary64 parts)

theorem unpack_add (first second : Float) :
    unpack (first + second) =
      stored (UnpackedFloat.add Format.binary64 (unpack first) (unpack second)) := rfl

theorem unpack_sub (minuend subtrahend : Float) :
    unpack (minuend - subtrahend) =
      stored (UnpackedFloat.sub Format.binary64 (unpack minuend) (unpack subtrahend)) := rfl

theorem unpack_div (dividend divisor : Float) :
    unpack (dividend / divisor) =
      stored (UnpackedFloat.div Format.binary64 (unpack dividend) (unpack divisor)) := rfl

/-- Storing does not make anything finite. -/
theorem isFinite_of_stored {parts : UnpackedFloat} (finite : (stored parts).isFinite = true) :
    parts.isFinite = true := by
  cases parts with
  | notANumber => exact absurd finite Bool.false_ne_true
  | infinity sign => cases sign <;> exact absurd finite Bool.false_ne_true
  | zero sign => rfl
  | finite sign significand exponent positive => rfl

/-- No quotient, difference or sum is finite if the first operand is not. -/
theorem operations_of_not_finite {first : UnpackedFloat} (infinite : first.isFinite = false)
    (second : UnpackedFloat) :
    (UnpackedFloat.div Format.binary64 first second).isFinite = false ∧
      (UnpackedFloat.sub Format.binary64 first second).isFinite = false ∧
      (UnpackedFloat.add Format.binary64 first second).isFinite = false := by
  cases first with
  | notANumber => exact ⟨rfl, rfl, rfl⟩
  | infinity sign =>
    rcases second with other | _ | _ | _
    · cases sign <;> cases other <;> exact ⟨rfl, rfl, rfl⟩
    all_goals exact ⟨rfl, rfl, rfl⟩
  | zero sign => exact absurd infinite.symm Bool.false_ne_true
  | finite sign significand exponent positive => exact absurd infinite.symm Bool.false_ne_true

/-- A number has a value if something stored has one that is not finite without it. -/
theorem isFinite_of_needed {result number : Float} {outcome : UnpackedFloat}
    (computed : unpack result = stored outcome)
    (needed : (unpack number).isFinite = false → outcome.isFinite = false)
    (finite : isFinite result) : isFinite number := by
  rw [isFinite_eq] at finite ⊢
  rw [computed] at finite
  by_contra infinite
  rw [Bool.not_eq_true] at infinite
  have lost := needed infinite
  rw [isFinite_of_stored finite] at lost
  exact Bool.false_ne_true lost.symm

/-- A quotient has no value if the dividend has none. -/
theorem isFinite_of_div {dividend divisor : Float} (finite : isFinite (dividend / divisor)) :
    isFinite dividend :=
  isFinite_of_needed (unpack_div dividend divisor)
    (fun infinite => (operations_of_not_finite infinite _).1) finite

/-- A difference has no value if the minuend has none. -/
theorem isFinite_of_sub {minuend subtrahend : Float} (finite : isFinite (minuend - subtrahend)) :
    isFinite minuend :=
  isFinite_of_needed (unpack_sub minuend subtrahend)
    (fun infinite => (operations_of_not_finite infinite _).2.1) finite

/-- A sum has no value if the first summand has none. -/
theorem isFinite_of_add {augend addend : Float} (finite : isFinite (augend + addend)) :
    isFinite augend :=
  isFinite_of_needed (unpack_add augend addend)
    (fun infinite => (operations_of_not_finite infinite _).2.2) finite

/-! ### Least and greatest -/

section Extremes

variable {κ : Type} [Preorder κ] {key : Float → κ} {join : Float → Float → Float}

/-- Joining two numbers gives a number whose key bounds theirs. -/
def Bounds (key : Float → κ) (join : Float → Float → Float) : Prop :=
  ∀ first second, first.isNaN = false → second.isNaN = false →
    (join first second).isNaN = false ∧ key first ≤ key (join first second) ∧
      key second ≤ key (join first second)

/-- Numbers joined from left to right bound all of them, if joining two bounds both. -/
theorem foldl_bounds (joins : Bounds key join) {numbers : List Float}
    (valued : ∀ number ∈ numbers, number.isNaN = false) (first : Float)
    (firstValued : first.isNaN = false) :
    (numbers.foldl join first).isNaN = false ∧
      ∀ number ∈ first :: numbers, key number ≤ key (numbers.foldl join first) := by
  induction numbers generalizing first with
  | nil => exact ⟨firstValued, by simp⟩
  | cons second rest inductionHypothesis =>
    obtain ⟨secondValued, restValued⟩ := List.forall_mem_cons.1 valued
    obtain ⟨joined, firstWithin, secondWithin⟩ := joins first second firstValued secondValued
    obtain ⟨whole, each⟩ := inductionHypothesis restValued (join first second) joined
    obtain ⟨joinWithin, restWithin⟩ := List.forall_mem_cons.1 each
    refine ⟨whole, List.forall_mem_cons.2 ⟨firstWithin.trans joinWithin, ?_⟩⟩
    exact List.forall_mem_cons.2 ⟨secondWithin.trans joinWithin, restWithin⟩

/-- What is no number does not count, and all numbers are bounded if there is one. -/
theorem extreme_bounds (joins : Bounds key join) {numbers : List Float} (whole : Float)
    (folded : ∀ first rest, numbers.filter Scalar.isNumber = first :: rest →
      whole = rest.foldl join first)
    {number : Float} (member : number ∈ numbers) (valued : number.isNaN = false) :
    whole.isNaN = false ∧ key number ≤ key whole := by
  have counts (other : Float) : Scalar.isNumber other = true ↔ other.isNaN = false := by
    change (!other.isNaN) = true ↔ _
    rw [Bool.not_eq_true']
  have kept : number ∈ numbers.filter Scalar.isNumber :=
    List.mem_filter.2 ⟨member, (counts number).2 valued⟩
  have all : ∀ other ∈ numbers.filter Scalar.isNumber, other.isNaN = false :=
    fun other inList => (counts other).1 (List.mem_filter.1 inList).2
  cases filtered : numbers.filter Scalar.isNumber with
  | nil => simp [filtered] at kept
  | cons first rest =>
    rw [filtered] at kept all
    obtain ⟨firstValued, restValued⟩ := List.forall_mem_cons.1 all
    obtain ⟨wholeValued, each⟩ := foldl_bounds joins restValued first firstValued
    rw [folded first rest filtered]
    exact ⟨wholeValued, each number kept⟩

end Extremes

/-- The test whether a number is less than another one. -/
theorem scalarLt_iff (first second : Float) : Scalar.lt first second = true ↔ first < second :=
  decide_eq_true_iff

/-- The greater of two numbers is at least both. -/
theorem greater_bounds :
    Bounds (fun number => rank (unpack number)) Scalar.greater := by
  intro first second firstValued secondValued
  rw [Scalar.greater]
  by_cases less : first < second
  · rw [if_pos ((scalarLt_iff _ _).2 less)]
    exact ⟨secondValued, ((lt_iff_rank firstValued secondValued).1 less).le, le_rfl⟩
  · rw [if_neg (mt (scalarLt_iff _ _).1 less)]
    rw [lt_iff_rank firstValued secondValued, not_lt] at less
    exact ⟨firstValued, le_rfl, less⟩

/-- The lesser of two numbers is at most both. -/
theorem lesser_bounds :
    Bounds (fun number => OrderDual.toDual (rank (unpack number))) Scalar.lesser := by
  intro first second firstValued secondValued
  rw [Scalar.lesser]
  by_cases less : second < first
  · rw [if_pos ((scalarLt_iff _ _).2 less)]
    exact ⟨secondValued, ((lt_iff_rank secondValued firstValued).1 less).le, le_rfl⟩
  · rw [if_neg (mt (scalarLt_iff _ _).1 less)]
    rw [lt_iff_rank secondValued firstValued, not_lt] at less
    exact ⟨firstValued, le_rfl, less⟩

/-- The greatest of some numbers is a number, and none of them is greater. -/
theorem le_greatest {numbers : List Float} {number : Float} (member : number ∈ numbers)
    (valued : number.isNaN = false) :
    (Scalar.greatest numbers).isNaN = false ∧ number ≤ Scalar.greatest numbers := by
  obtain ⟨whole, within⟩ := extreme_bounds greater_bounds (Scalar.greatest numbers)
    (fun first rest filtered => by rw [Scalar.greatest, filtered]) member valued
  exact ⟨whole, (le_iff_rank valued whole).2 within⟩

/-- The least of some numbers is a number, and none of them is less. -/
theorem least_le {numbers : List Float} {number : Float} (member : number ∈ numbers)
    (valued : number.isNaN = false) :
    (Scalar.least numbers).isNaN = false ∧ Scalar.least numbers ≤ number := by
  obtain ⟨whole, within⟩ := extreme_bounds lesser_bounds (Scalar.least numbers)
    (fun first rest filtered => by rw [Scalar.least, filtered]) member valued
  exact ⟨whole, (le_iff_rank whole valued).2 within⟩

end BenchFigures.Binary64
