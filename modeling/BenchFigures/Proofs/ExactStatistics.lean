import BenchFigures.Aggregate
import Mathlib

/-!
# Statistics without rounding

Over the rationals every number counts, so the least and the greatest of some numbers are the
least and the greatest element of the list, and the mean is the sum divided by the count. The
mean is between the two. In particular no sample has an average below its minimum.
-/

namespace BenchFigures

namespace Scalar

/-! ### Least and greatest -/

section Extremes

variable {α : Type} {bounds : α → α → Prop} {join : α → α → α}

/-- Joining two elements chooses one of them, which bounds both. -/
def Chooses (bounds : α → α → Prop) (join : α → α → α) : Prop :=
  ∀ first second, (join first second = first ∨ join first second = second) ∧
    bounds (join first second) first ∧ bounds (join first second) second

/-- Elements joined from left to right come to one of them, which bounds all. -/
theorem foldl_chooses (refl : ∀ element, bounds element element)
    (trans : ∀ {first second third}, bounds first second → bounds second third →
      bounds first third)
    (chooses : Chooses bounds join) (first : α) (rest : List α) :
    rest.foldl join first ∈ first :: rest ∧
      ∀ element ∈ first :: rest, bounds (rest.foldl join first) element := by
  induction rest generalizing first with
  | nil => simp [refl]
  | cons second rest inductionHypothesis =>
    obtain ⟨chosen, firstBounded, secondBounded⟩ := chooses first second
    obtain ⟨member, bounded⟩ := inductionHypothesis (join first second)
    obtain ⟨joinBounded, restBounded⟩ := List.forall_mem_cons.1 bounded
    rw [List.foldl_cons]
    constructor
    · rcases List.mem_cons.1 member with same | inRest
      · rw [same]
        rcases chosen with left | right
        · simp [left]
        · simp [right]
      · exact List.mem_cons_of_mem _ (List.mem_cons_of_mem _ inRest)
    · refine List.forall_mem_cons.2 ⟨trans joinBounded firstBounded, ?_⟩
      exact List.forall_mem_cons.2 ⟨trans joinBounded secondBounded, restBounded⟩

end Extremes

/-- The lesser of two rationals is the minimum. -/
theorem lesser_eq_min (first second : Rat) : lesser first second = min first second := by
  rw [lesser]
  by_cases less : second < first
  · have holds : lt second first = true := decide_eq_true less
    rw [if_pos holds, min_eq_right less.le]
  · have fails : ¬ lt second first = true := by simpa [lt] using less
    rw [if_neg fails, min_eq_left (not_lt.1 less)]

/-- The greater of two rationals is the maximum. -/
theorem greater_eq_max (first second : Rat) : greater first second = max first second := by
  rw [greater]
  by_cases less : first < second
  · have holds : lt first second = true := decide_eq_true less
    rw [if_pos holds, max_eq_right less.le]
  · have fails : ¬ lt first second = true := by simpa [lt] using less
    rw [if_neg fails, max_eq_left (not_lt.1 less)]

/-- The least of some rationals is the least element of the list. -/
theorem isLeast_least {numbers : List Rat} (filled : numbers ≠ []) :
    IsLeast {number | number ∈ numbers} (least numbers) := by
  obtain ⟨first, rest, rfl⟩ := List.exists_cons_of_ne_nil filled
  have folded : least (first :: rest) = rest.foldl lesser first := by
    have all : (first :: rest).filter isNumber = first :: rest :=
      List.filter_eq_self.2 fun _ _ => rfl
    rw [least, all]
  rw [folded]
  apply foldl_chooses (fun _ => le_rfl) le_trans
  intro one other
  rw [lesser_eq_min]
  exact ⟨min_choice one other, min_le_left one other, min_le_right one other⟩

/-- The greatest of some rationals is the greatest element of the list. -/
theorem isGreatest_greatest {numbers : List Rat} (filled : numbers ≠ []) :
    IsGreatest {number | number ∈ numbers} (greatest numbers) := by
  obtain ⟨first, rest, rfl⟩ := List.exists_cons_of_ne_nil filled
  have folded : greatest (first :: rest) = rest.foldl greater first := by
    have all : (first :: rest).filter isNumber = first :: rest :=
      List.filter_eq_self.2 fun _ _ => rfl
    rw [greatest, all]
  rw [folded]
  apply @foldl_chooses Rat (· ≥ ·) greater (fun _ => le_rfl) ge_trans
  intro one other
  rw [greater_eq_max]
  exact ⟨max_choice one other, le_max_left one other, le_max_right one other⟩

/-! ### Means -/

/-- The sum from left to right is the sum. -/
theorem sum_eq (numbers : List Rat) : sum numbers = numbers.sum := by
  rw [List.sum_eq_foldl]
  rfl

/-- The mean is the sum divided by the count. -/
theorem mean_eq (numbers : List Rat) : mean numbers = numbers.sum / numbers.length := by
  rw [← sum_eq]
  rfl

/-- What is at most every number is at most the mean. -/
theorem le_mean {numbers : List Rat} (filled : numbers ≠ []) {bound : Rat}
    (below : ∀ number ∈ numbers, bound ≤ number) : bound ≤ mean numbers := by
  have count : (0 : Rat) < numbers.length := by exact_mod_cast List.length_pos_iff.2 filled
  rw [mean_eq, le_div_iff₀ count]
  calc bound * numbers.length = numbers.length • bound := by rw [nsmul_eq_mul, mul_comm]
    _ ≤ numbers.sum := numbers.card_nsmul_le_sum bound below

end Scalar

namespace Aggregate

/-- An aggregate has the statistics of its sample, whatever speedup is stored. -/
def IsMeasured (aggregate : Aggregate Rat) : Prop :=
  aggregate = { ofSample aggregate.sample with speedup := aggregate.speedup }

/-- No average is below the minimum. -/
theorem IsMeasured.minimum_le_average {aggregate : Aggregate Rat}
    (measured : aggregate.IsMeasured) : aggregate.minimum ≤ aggregate.average := by
  have filled : aggregate.sample.elapsed ≠ [] := by
    simpa [Sample.elapsed] using aggregate.sample.runs_ne_nil
  rw [measured]
  exact Scalar.le_mean filled fun number member => (Scalar.isLeast_least filled).2 member

end Aggregate

end BenchFigures
