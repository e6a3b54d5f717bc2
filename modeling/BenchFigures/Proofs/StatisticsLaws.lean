import BenchFigures.Proofs.ExactStatistics

/-!
# Laws of statistics

What the statistics of a sample mean, read over the rationals. The variance stands for the square
of the deviation. It is the mean of the squares less the square of the mean, so it vanishes
exactly on samples of one time. The order of the runs does not matter. In another unit of time,
with its own origin, averages and extremes are the same times, and the variance is that of the
new unit.

A speedup compares two averages by their quotient. It is positive if the baseline takes longer,
it does not depend on the unit of time, and the one there and the one back cancel out.
-/

namespace BenchFigures

namespace Scalar

/-! ### Means and variances -/

section

variable {numbers : List Rat}

/-- What is at least every number is at least the mean. -/
theorem mean_le (filled : numbers ≠ []) {bound : Rat} (above : ∀ number ∈ numbers, number ≤ bound) :
    mean numbers ≤ bound := by
  have count : (0 : Rat) < numbers.length := by exact_mod_cast List.length_pos_iff.2 filled
  rw [mean_eq, div_le_iff₀ count]
  calc numbers.sum ≤ numbers.length • bound := numbers.sum_le_card_nsmul bound above
    _ = bound * numbers.length := by rw [nsmul_eq_mul, mul_comm]

/-- The mean of numbers that are moved and scaled is the mean, moved and scaled. -/
theorem mean_map_affine (filled : numbers ≠ []) (factor offset : Rat) :
    mean (numbers.map fun number => factor * number + offset) =
      factor * mean numbers + offset := by
  have count : (numbers.length : Rat) ≠ 0 := by simpa using filled
  rw [mean_eq, mean_eq, List.length_map, List.sum_map_add, List.sum_map_mul_left, List.map_id',
    List.map_const', List.sum_replicate, nsmul_eq_mul]
  field_simp

/-- The variance is the mean of the squares less the square of the mean. -/
theorem variance_eq (filled : numbers ≠ []) :
    variance numbers = mean (numbers.map (· ^ 2)) - mean numbers ^ 2 := by
  have count : (numbers.length : Rat) ≠ 0 := by simpa using filled
  have square (number : Rat) : (number - mean numbers) * (number - mean numbers) =
      number ^ 2 + (-(2 * mean numbers) * number + mean numbers ^ 2) := by ring
  rw [variance]
  simp only [square]
  rw [mean_eq, mean_eq (numbers.map _), List.length_map, List.length_map, List.sum_map_add,
    List.sum_map_add, List.sum_map_mul_left, List.map_id', List.map_const', List.sum_replicate,
    nsmul_eq_mul]
  have total : numbers.sum = mean numbers * numbers.length := by
    rw [mean_eq, div_mul_cancel₀ _ count]
  rw [total]
  field_simp
  ring

/-- The variance vanishes exactly if all numbers are the mean. -/
theorem variance_eq_zero_iff (filled : numbers ≠ []) :
    variance numbers = 0 ↔ ∀ number ∈ numbers, number = mean numbers := by
  have count : (numbers.length : Rat) ≠ 0 := by simpa using filled
  rw [variance, mean_eq, List.length_map, div_eq_zero_iff, or_iff_left count]
  constructor
  · intro vanishes number member
    have nonnegative : ∀ square ∈ numbers.map fun number =>
        (number - mean numbers) * (number - mean numbers), 0 ≤ square := by
      intro square squared
      obtain ⟨other, -, rfl⟩ := List.mem_map.1 squared
      exact mul_self_nonneg _
    have each := List.all_zero_of_le_zero_le_of_sum_eq_zero nonnegative vanishes
      (List.mem_map_of_mem member)
    exact sub_eq_zero.1 (mul_self_eq_zero.1 each)
  · intro constant
    apply List.sum_eq_zero
    intro square squared
    obtain ⟨number, member, rfl⟩ := List.mem_map.1 squared
    rw [constant number member, sub_self, mul_zero]

/-- The mean of multiples is the multiple of the mean. -/
theorem mean_map_mul (factor : Rat) (numbers : List Rat) :
    mean (numbers.map (factor * ·)) = factor * mean numbers := by
  rw [mean_eq, mean_eq, List.length_map, List.sum_map_mul_left, List.map_id', mul_div_assoc]

/-- The variance of numbers that are scaled and moved is the variance times the square of the
scale. -/
theorem variance_map_affine (filled : numbers ≠ []) (factor offset : Rat) :
    variance (numbers.map fun number => factor * number + offset) =
      factor ^ 2 * variance numbers := by
  rw [variance, variance, mean_map_affine filled]
  rw [← mean_map_mul (factor ^ 2), List.map_map, List.map_map]
  congr 1
  apply List.map_congr_left
  intro number _
  simp only [Function.comp_apply]
  ring

/-! ### Other orders and units -/

variable {others : List Rat}

/-- The mean does not depend on the order. -/
theorem mean_perm (same : numbers.Perm others) : mean numbers = mean others := by
  rw [mean_eq, mean_eq, same.sum_eq, same.length_eq]

/-- The variance does not depend on the order. -/
theorem variance_perm (same : numbers.Perm others) : variance numbers = variance others := by
  rw [variance, variance, mean_perm same]
  exact mean_perm (same.map _)

/-- The least number does not depend on the order. -/
theorem least_perm (filled : numbers ≠ []) (same : numbers.Perm others) :
    least numbers = least others := by
  have others_ne_nil : others ≠ [] := fun none => filled (List.Perm.eq_nil (none ▸ same))
  have lowest := isLeast_least filled
  simp only [same.mem_iff] at lowest
  exact lowest.unique (isLeast_least others_ne_nil)

/-- The greatest number does not depend on the order. -/
theorem greatest_perm (filled : numbers ≠ []) (same : numbers.Perm others) :
    greatest numbers = greatest others := by
  have others_ne_nil : others ≠ [] := fun none => filled (List.Perm.eq_nil (none ▸ same))
  have highest := isGreatest_greatest filled
  simp only [same.mem_iff] at highest
  exact highest.unique (isGreatest_greatest others_ne_nil)

/-- The least and the greatest number keep their places under what keeps the order. -/
theorem extremes_map (filled : numbers ≠ []) {change : Rat → Rat} (kept : Monotone change) :
    least (numbers.map change) = change (least numbers) ∧
      greatest (numbers.map change) = change (greatest numbers) := by
  have image : change '' {number | number ∈ numbers} = {number | number ∈ numbers.map change} := by
    ext number
    simp
  have changed : numbers.map change ≠ [] := by simpa using filled
  have lowest := kept.map_isLeast (isLeast_least filled)
  have highest := kept.map_isGreatest (isGreatest_greatest filled)
  rw [image] at lowest highest
  exact ⟨(isLeast_least changed).unique lowest, (isGreatest_greatest changed).unique highest⟩

end

end Scalar

/-- The runs of a sample with their times in another unit, counted from another origin. -/
def Sample.rescaled (sample : Sample Rat) (factor offset : Rat) : Sample Rat where
  runs := sample.runs.map fun run => { run with elapsed := factor * run.elapsed + offset }
  runs_ne_nil := by simpa using sample.runs_ne_nil

theorem Sample.elapsed_rescaled (sample : Sample Rat) (factor offset : Rat) :
    (sample.rescaled factor offset).elapsed =
      sample.elapsed.map fun time => factor * time + offset := by
  simp [rescaled, elapsed]

theorem Sample.elapsed_ne_nil {α : Type} (sample : Sample α) : sample.elapsed ≠ [] := by
  simpa [elapsed] using sample.runs_ne_nil

namespace Aggregate

/-- The statistics of an aggregate mean what they say of some times. -/
structure Describes (aggregate : Aggregate Rat) (times : List Rat) : Prop where
  average : aggregate.average * times.length = times.sum
  minimum : IsLeast {time | time ∈ times} aggregate.minimum
  maximum : IsGreatest {time | time ∈ times} aggregate.maximum
  between : aggregate.minimum ≤ aggregate.average ∧ aggregate.average ≤ aggregate.maximum
  variance : aggregate.variance =
    (times.map (· ^ 2)).sum / times.length - aggregate.average ^ 2
  constant : aggregate.variance = 0 ↔ ∀ time ∈ times, ∀ other ∈ times, time = other

/-- The statistics of an aggregate are those of another one in another unit, counted from another
origin. -/
structure IsRescaled (aggregate original : Aggregate Rat) (factor offset : Rat) : Prop where
  average : aggregate.average = factor * original.average + offset
  minimum : aggregate.minimum = factor * original.minimum + offset
  maximum : aggregate.maximum = factor * original.maximum + offset
  variance : aggregate.variance = factor ^ 2 * original.variance

variable (sample : Sample Rat)

/-- The statistics of a sample mean what they say. -/
theorem describes_ofSample : (ofSample sample).Describes sample.elapsed := by
  have filled := sample.elapsed_ne_nil
  have count : (sample.elapsed.length : Rat) ≠ 0 := by simpa using filled
  constructor
  case average => exact (eq_div_iff count).1 (Scalar.mean_eq _)
  case minimum => exact Scalar.isLeast_least filled
  case maximum => exact Scalar.isGreatest_greatest filled
  case between =>
    exact ⟨Scalar.le_mean filled fun time member => (Scalar.isLeast_least filled).2 member,
      Scalar.mean_le filled fun time member => (Scalar.isGreatest_greatest filled).2 member⟩
  case variance =>
    have squares := Scalar.mean_eq (sample.elapsed.map (· ^ 2))
    rw [List.length_map] at squares
    rw [← squares]
    exact Scalar.variance_eq filled
  case constant =>
    have vanishes := Scalar.variance_eq_zero_iff filled
    constructor
    · intro zero time member other otherMember
      rw [vanishes.1 zero time member, vanishes.1 zero other otherMember]
    · intro constant
      obtain ⟨first, member⟩ := List.exists_mem_of_ne_nil _ filled
      have all : ∀ time ∈ sample.elapsed, time = first := fun time inList =>
        constant time inList first member
      have average : Scalar.mean sample.elapsed = first :=
        le_antisymm (Scalar.mean_le filled fun time inList => (all time inList).le)
          (Scalar.le_mean filled fun time inList => (all time inList).ge)
      exact vanishes.2 (average ▸ all)

/-- The statistics of the same runs in another order are the same. -/
theorem ofSample_perm {other : Sample Rat} (same : other.runs.Perm sample.runs) :
    ofSample other = { ofSample sample with sample := other } := by
  have times : other.elapsed.Perm sample.elapsed := same.map _
  have filled := other.elapsed_ne_nil
  simp only [ofSample, Scalar.mean_perm times, Scalar.least_perm filled times,
    Scalar.greatest_perm filled times, Scalar.variance_perm times]

/-- The statistics of times in another unit are those of the times, in that unit. -/
theorem isRescaled_rescaled {factor : Rat} (positive : 0 < factor) (offset : Rat) :
    (ofSample (sample.rescaled factor offset)).IsRescaled (ofSample sample) factor offset := by
  have filled := sample.elapsed_ne_nil
  have kept : Monotone fun time => factor * time + offset := by
    intro time later ordered
    exact add_le_add_left (mul_le_mul_of_nonneg_left ordered positive.le) offset
  obtain ⟨least, greatest⟩ := Scalar.extremes_map filled kept
  have times := sample.elapsed_rescaled factor offset
  constructor
  case average => exact (congrArg Scalar.mean times).trans (Scalar.mean_map_affine filled _ _)
  case minimum => exact (congrArg Scalar.least times).trans least
  case maximum => exact (congrArg Scalar.greatest times).trans greatest
  case variance =>
    exact (congrArg Scalar.variance times).trans (Scalar.variance_map_affine filled _ _)

/-! ### Speedups -/

section

variable {own other : Aggregate Rat}

theorem speedupOver_eq (own other : Aggregate Rat) :
    own.speedupOver other = other.average / own.average - 1 := rfl

/-- A speedup is positive exactly if the baseline takes longer. -/
theorem speedupOver_pos_iff (positive : 0 < own.average) :
    0 < own.speedupOver other ↔ own.average < other.average := by
  rw [speedupOver_eq, sub_pos, one_lt_div positive]

/-- The speedup there and the speedup back cancel out. -/
theorem speedupOver_back (positive : 0 < own.average) (otherPositive : 0 < other.average) :
    (1 + own.speedupOver other) * (1 + other.speedupOver own) = 1 := by
  rw [speedupOver_eq, speedupOver_eq]
  field_simp
  ring

/-- A speedup does not depend on the unit of time. -/
theorem speedupOver_rescaled {factor : Rat} (positive : 0 < factor)
    (sample baseline : Sample Rat) :
    (ofSample (sample.rescaled factor 0)).speedupOver (ofSample (baseline.rescaled factor 0)) =
      (ofSample sample).speedupOver (ofSample baseline) := by
  rw [speedupOver_eq, speedupOver_eq, (isRescaled_rescaled sample positive 0).average,
    (isRescaled_rescaled baseline positive 0).average, add_zero, add_zero,
    mul_div_mul_left _ _ positive.ne']

end

/-- What statistics mean in exact arithmetic, for any sample. The average times the count is the
sum, the extremes are the least and the greatest time, and the average is between them. The
variance is the mean of the squares less the square of the average, and vanishes exactly if all
times are equal. The order of the runs changes none of these, and another unit and origin of
time changes them as it changes times, with the variance in the square of the unit. For two
samples with positive averages, the speedup of one over the other is positive exactly if its
average is smaller, does not depend on the unit, and cancels out with the speedup back. -/
theorem statistics_laws (sample : Sample Rat) :
    (ofSample sample).Describes sample.elapsed ∧
    (∀ other : Sample Rat, other.runs.Perm sample.runs →
      ofSample other = { ofSample sample with sample := other }) ∧
    (∀ factor offset : Rat, 0 < factor →
      (ofSample (sample.rescaled factor offset)).IsRescaled (ofSample sample) factor offset) ∧
    ∀ baseline : Sample Rat, 0 < (ofSample sample).average → 0 < (ofSample baseline).average →
      (0 < (ofSample sample).speedupOver (ofSample baseline) ↔
        (ofSample sample).average < (ofSample baseline).average) ∧
      (∀ factor : Rat, 0 < factor →
        (ofSample (sample.rescaled factor 0)).speedupOver (ofSample (baseline.rescaled factor 0)) =
          (ofSample sample).speedupOver (ofSample baseline)) ∧
      (1 + (ofSample sample).speedupOver (ofSample baseline)) *
        (1 + (ofSample baseline).speedupOver (ofSample sample)) = 1 := by
  refine ⟨describes_ofSample sample, ?_, ?_, ?_⟩
  · intro other same
    exact ofSample_perm sample same
  · intro factor offset positive
    exact isRescaled_rescaled sample positive offset
  · intro baseline positive baselinePositive
    refine ⟨speedupOver_pos_iff positive, ?_, speedupOver_back positive baselinePositive⟩
    intro factor scaled
    exact speedupOver_rescaled scaled sample baseline

/-- Three runs of 10, 20 and 30 have the average 20 and the variance 200/3, in any order. In
tenths they have the average 200, and the speedup over runs of 30 on average is one half. -/
theorem statistics_laws_thrice :
    let sample : Sample Rat := ⟨[⟨1, 10, 0⟩, ⟨2, 20, 0⟩, ⟨3, 30, 0⟩], by simp⟩
    let shuffled : Sample Rat := ⟨[⟨2, 20, 0⟩, ⟨3, 30, 0⟩, ⟨1, 10, 0⟩], by simp⟩
    let baseline : Sample Rat := ⟨[⟨1, 25, 0⟩, ⟨2, 35, 0⟩], by simp⟩
    (ofSample sample).variance = 200 / 3 ∧
      ofSample shuffled = { ofSample sample with sample := shuffled } ∧
      (ofSample (sample.rescaled 10 0)).average = 200 ∧
      (ofSample sample).speedupOver (ofSample baseline) = 1 / 2 ∧
      0 < (ofSample sample).speedupOver (ofSample baseline) := by
  intro sample shuffled baseline
  have average : (ofSample sample).average = 20 := by decide +kernel
  have baselineAverage : (ofSample baseline).average = 30 := by decide +kernel
  obtain ⟨described, ordered, rescaled, compared⟩ := statistics_laws sample
  refine ⟨by decide +kernel, ordered shuffled (by decide +kernel), ?_, by decide +kernel, ?_⟩
  · rw [(rescaled 10 0 (by norm_num)).average, average]
    norm_num
  · obtain ⟨positive, -, -⟩ := compared baseline (by rw [average]; norm_num)
      (by rw [baselineAverage]; norm_num)
    rw [positive, average, baselineAverage]
    norm_num

end Aggregate

end BenchFigures
