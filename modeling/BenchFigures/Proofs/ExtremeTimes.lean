import BenchFigures.Proofs.ExactStatistics
import BenchFigures.Proofs.NotANumber

/-!
# Least and greatest times

The least and the greatest of some times are times among them that bound all others, whatever
else was measured: what is no number does not count, and infinite times are bounded like all
others. If there is no number at all, the least is positive infinity and the greatest negative
infinity. So the order of the times does not matter, nor do times that are no numbers, and
folding over the times from these infinities comes to the same.

Both extremes are one: an order on the ranks of numbers, and a join that chooses the number that
is further in that order.
-/

namespace BenchFigures

namespace Binary64

open Float.Model (UnpackedFloat)

/-- Numbers compare as equal exactly if they have the same rank. Both zeros have one rank. -/
theorem beq_iff_rank {first second : Float} (firstNumber : first.isNaN = false)
    (secondNumber : second.isNaN = false) :
    (first == second) = true ↔ rank (unpack first) = rank (unpack second) := by
  have same : (first == second) = ((unpack first).compare (unpack second) == some .eq) := rfl
  rw [same, compare_eq_rank ((unpack_ne_notANumber_iff first).2 firstNumber)
    ((unpack_ne_notANumber_iff second).2 secondNumber), beq_iff_eq, Option.some_inj,
    compare_eq_iff_eq]

/-- The numbers that count are those that are numbers. -/
theorem isNumber_iff (number : Float) :
    Scalar.isNumber number = true ↔ number.isNaN = false := by
  change (!number.isNaN) = true ↔ _
  rw [Bool.not_eq_true']

/-- Two numbers joined, where what is no number does not count. -/
def joinNumbers (join : Float → Float → Float) (first second : Float) : Float :=
  if first.isNaN then second else if second.isNaN then first else join first second

/-! ### The furthest of some numbers -/

section Furthest

variable {κ : Type} [PartialOrder κ] {key : Float → κ} {join : Float → Float → Float}

/-- A number is among others, and none of those that are numbers goes beyond it. -/
structure IsFurthest (key : Float → κ) (numbers : List Float) (number : Float) : Prop where
  mem : number ∈ numbers
  isNumber : number.isNaN = false
  within : ∀ other ∈ numbers, other.isNaN = false → key other ≤ key number

/-- A join picks numbers: it chooses one of two that goes as far as both. -/
structure Picks (key : Float → κ) (join : Float → Float → Float) : Prop where
  bounds : Bounds key join
  chooses : ∀ first second, join first second = first ∨ join first second = second

/-- Lists with the same numbers have furthest numbers that go equally far. -/
theorem IsFurthest.key_eq {numbers others : List Float} {number other : Float}
    (furthest : IsFurthest key numbers number) (furthest' : IsFurthest key others other)
    (same : ∀ element : Float, element.isNaN = false → (element ∈ numbers ↔ element ∈ others)) :
    key number = key other := by
  apply le_antisymm
  · exact furthest'.within number ((same number furthest.isNumber).1 furthest.mem)
      furthest.isNumber
  · exact furthest.within other ((same other furthest'.isNumber).2 furthest'.mem)
      furthest'.isNumber

/-- The furthest of all numbers in a list, other entries left out, is the furthest of the list. -/
theorem IsFurthest.of_filter {numbers : List Float} {number : Float}
    (furthest : IsFurthest key (numbers.filter Scalar.isNumber) number) :
    IsFurthest key numbers number where
  mem := (List.mem_filter.1 furthest.mem).1
  isNumber := furthest.isNumber
  within other member valued :=
    furthest.within other (List.mem_filter.2 ⟨member, (isNumber_iff other).2 valued⟩) valued

/-- Numbers joined from left to right come to the furthest of them. -/
theorem Picks.isFurthest_foldl (picks : Picks key join) {first : Float} {rest : List Float}
    (valued : ∀ number ∈ first :: rest, number.isNaN = false) :
    IsFurthest key (first :: rest) (rest.foldl join first) := by
  obtain ⟨firstValued, restValued⟩ := List.forall_mem_cons.1 valued
  obtain ⟨isNumber, within⟩ := foldl_bounds picks.bounds restValued first firstValued
  -- Only the choices matter for being a member, so any relation will do as the bound.
  have chosen : Scalar.Chooses (fun _ _ => True) join :=
    fun one other => ⟨picks.chooses one other, trivial, trivial⟩
  obtain ⟨member, -⟩ :=
    Scalar.foldl_chooses (fun _ => trivial) (fun _ _ => trivial) chosen first rest
  exact ⟨member, isNumber, fun other inList _ => within other inList⟩

/-- An extreme of a list with a number in it is its furthest number. -/
theorem Picks.isFurthest (picks : Picks key join) {numbers : List Float} {whole : Float}
    (folded : ∀ first rest, numbers.filter Scalar.isNumber = first :: rest →
      whole = rest.foldl join first)
    (counts : ∃ number ∈ numbers, number.isNaN = false) : IsFurthest key numbers whole := by
  obtain ⟨number, member, valued⟩ := counts
  have kept : number ∈ numbers.filter Scalar.isNumber :=
    List.mem_filter.2 ⟨member, (isNumber_iff number).2 valued⟩
  obtain ⟨first, rest, filtered⟩ := List.exists_cons_of_ne_nil (List.ne_nil_of_mem kept)
  have all : ∀ other ∈ first :: rest, other.isNaN = false := by
    intro other inList
    rw [← filtered, List.mem_filter] at inList
    exact (isNumber_iff other).1 inList.2
  apply IsFurthest.of_filter
  rw [filtered, folded first rest filtered]
  exact picks.isFurthest_foldl all

/-- Joining a list from a number on joins the numbers in it. -/
theorem foldl_joinNumbers (bounds : Bounds key join) (numbers : List Float) {start : Float}
    (valued : start.isNaN = false) :
    numbers.foldl (joinNumbers join) start =
      (numbers.filter Scalar.isNumber).foldl join start := by
  have startCounts : ¬ start.isNaN = true := by rw [valued]; exact Bool.false_ne_true
  induction numbers generalizing start with
  | nil => rfl
  | cons first rest inductionHypothesis =>
    by_cases missing : first.isNaN = true
    · have left : ¬ Scalar.isNumber first = true := by
        rw [isNumber_iff, missing]
        exact Bool.noConfusion
      have skipped : joinNumbers join start first = start := by
        rw [joinNumbers, if_neg startCounts, if_pos missing]
      rw [List.foldl_cons, skipped, List.filter_cons_of_neg left,
        inductionHypothesis valued startCounts]
    · have firstValued : first.isNaN = false := Bool.not_eq_true _ ▸ missing
      have joined : joinNumbers join start first = join start first := by
        rw [joinNumbers, if_neg startCounts, if_neg missing]
      have joinValued := (bounds start first valued firstValued).1
      rw [List.foldl_cons, joined,
        List.filter_cons_of_pos ((isNumber_iff first).2 firstValued), List.foldl_cons,
        inductionHypothesis joinValued (by rw [joinValued]; exact Bool.false_ne_true)]

/-- Joining a list from the number that is within all others gives its furthest number. -/
theorem Picks.key_foldl (picks : Picks key join) {numbers : List Float} {start : Float}
    (valued : start.isNaN = false)
    (least : ∀ number ∈ numbers, number.isNaN = false → key start ≤ key number)
    {whole : Float} (furthest : IsFurthest key numbers whole) :
    (numbers.foldl (joinNumbers join) start).isNaN = false ∧
      key (numbers.foldl (joinNumbers join) start) = key whole := by
  have all : ∀ number ∈ start :: numbers.filter Scalar.isNumber, number.isNaN = false := by
    refine List.forall_mem_cons.2 ⟨valued, fun number member => ?_⟩
    exact (isNumber_iff number).1 (List.mem_filter.1 member).2
  rw [foldl_joinNumbers picks.bounds numbers valued]
  obtain ⟨member, isNumber, within⟩ := picks.isFurthest_foldl all
  refine ⟨isNumber, le_antisymm ?_ ?_⟩
  · rcases List.mem_cons.1 member with same | inRest
    · rw [same]
      exact least whole furthest.mem furthest.isNumber
    · exact furthest.within _ (List.mem_filter.1 inRest).1 isNumber
  · have kept : whole ∈ numbers.filter Scalar.isNumber :=
      List.mem_filter.2 ⟨furthest.mem, (isNumber_iff whole).2 furthest.isNumber⟩
    exact within whole (List.mem_cons_of_mem _ kept) furthest.isNumber

end Furthest

/-! ### The least and the greatest number -/

/-- How far down a number is. -/
def depth (number : Float) : (Int ×ₗ Int ×ₗ Int)ᵒᵈ := OrderDual.toDual (rank (unpack number))

/-- How far up a number is. -/
def height (number : Float) : Int ×ₗ Int ×ₗ Int := rank (unpack number)

theorem picks_lesser : Picks depth Scalar.lesser where
  bounds := lesser_bounds
  chooses first second := by
    rw [Scalar.lesser]
    split
    · exact .inr rfl
    · exact .inl rfl

theorem picks_greater : Picks height Scalar.greater where
  bounds := greater_bounds
  chooses first second := by
    rw [Scalar.greater]
    split
    · exact .inr rfl
    · exact .inl rfl

/-- The least number of a list is the one furthest down. -/
theorem isFurthest_least {numbers : List Float}
    (counts : ∃ number ∈ numbers, number.isNaN = false) :
    IsFurthest depth numbers (Scalar.least numbers) :=
  picks_lesser.isFurthest (fun first rest filtered => by rw [Scalar.least, filtered]) counts

/-- The greatest number of a list is the one furthest up. -/
theorem isFurthest_greatest {numbers : List Float}
    (counts : ∃ number ∈ numbers, number.isNaN = false) :
    IsFurthest height numbers (Scalar.greatest numbers) :=
  picks_greater.isFurthest (fun first rest filtered => by rw [Scalar.greatest, filtered]) counts

/-- No number is above positive infinity or below negative infinity. -/
theorem rank_bounds (parts : UnpackedFloat) :
    rank parts ≤ rank (.infinity .positive) ∧ rank (.infinity .negative) ≤ rank parts := by
  rcases parts with (_ | _) | _ | _ | ⟨_ | _, m, e, _⟩ <;>
    simp [rank, Prod.Lex.toLex_le_toLex]

/-- A list in which nothing is a number has nothing left of it. -/
theorem filter_isNumber_eq_nil {numbers : List Float}
    (missing : ∀ number ∈ numbers, number.isNaN = true) :
    numbers.filter Scalar.isNumber = [] := by
  rw [List.filter_eq_nil_iff]
  intro number member
  rw [isNumber_iff, missing number member]
  exact Bool.noConfusion

end Binary64

namespace Aggregate

open Binary64

variable (sample : Sample Float)

/-- The minimum and the maximum of a sample with a number in it are the furthest times. -/
theorem isFurthest_ofSample (counts : ∃ time ∈ sample.elapsed, time.isNaN = false) :
    IsFurthest depth sample.elapsed (ofSample sample).minimum ∧
      IsFurthest height sample.elapsed (ofSample sample).maximum :=
  ⟨isFurthest_least counts, isFurthest_greatest counts⟩

/-- Without a number, the minimum and the maximum are the infinities. -/
theorem extremes_of_missing (missing : ∀ time ∈ sample.elapsed, time.isNaN = true) :
    (ofSample sample).minimum = 1.0 / 0.0 ∧ (ofSample sample).maximum = -1.0 / 0.0 := by
  have nothing := filter_isNumber_eq_nil missing
  constructor
  · change Scalar.least sample.elapsed = _
    rw [Scalar.least, nothing]
    rfl
  · change Scalar.greatest sample.elapsed = _
    rw [Scalar.greatest, nothing]
    rfl

/-- The times of a sample either have a number among them or are none at all. -/
theorem counts_or_missing :
    (∃ time ∈ sample.elapsed, time.isNaN = false) ∨
      ∀ time ∈ sample.elapsed, time.isNaN = true := by
  by_cases counts : ∃ time ∈ sample.elapsed, time.isNaN = false
  · exact .inl counts
  · refine .inr fun time member => ?_
    by_contra valued
    exact counts ⟨time, member, Bool.not_eq_true _ ▸ valued⟩

/-- Neither the order of the times nor further times that are no numbers matter. -/
theorem extremes_perm {other : Sample Float} {further : List Float}
    (missing : ∀ time ∈ further, time.isNaN = true)
    (same : other.elapsed.Perm (sample.elapsed ++ further)) :
    ((ofSample other).minimum == (ofSample sample).minimum) = true ∧
      ((ofSample other).maximum == (ofSample sample).maximum) = true := by
  have members (time : Float) (valued : time.isNaN = false) :
      time ∈ other.elapsed ↔ time ∈ sample.elapsed := by
    rw [same.mem_iff, List.mem_append, or_iff_left]
    intro inFurther
    exact Bool.false_ne_true (valued.symm.trans (missing time inFurther))
  rcases counts_or_missing sample with ⟨time, member, valued⟩ | none
  · obtain ⟨least, greatest⟩ := isFurthest_ofSample sample ⟨time, member, valued⟩
    obtain ⟨otherLeast, otherGreatest⟩ :=
      isFurthest_ofSample other ⟨time, (members time valued).2 member, valued⟩
    rw [beq_iff_rank otherLeast.isNumber least.isNumber,
      beq_iff_rank otherGreatest.isNumber greatest.isNumber]
    exact ⟨OrderDual.toDual_inj.1 (otherLeast.key_eq least members),
      otherGreatest.key_eq greatest members⟩
  · have none' : ∀ time ∈ other.elapsed, time.isNaN = true := by
      intro time member
      rcases List.mem_append.1 (same.mem_iff.1 member) with inSample | inFurther
      · exact none time inSample
      · exact missing time inFurther
    obtain ⟨least, greatest⟩ := extremes_of_missing sample none
    obtain ⟨otherLeast, otherGreatest⟩ := extremes_of_missing other none'
    rw [least, greatest, otherLeast, otherGreatest]
    decide +kernel

/-- Folding over the times from the infinities gives the extremes, whichever of two equal numbers
a join chooses. -/
theorem extremes_eq_foldl {lesser greater : Float → Float → Float} (least : Picks depth lesser)
    (greatest : Picks height greater) :
    (sample.elapsed.foldl (joinNumbers lesser) (1.0 / 0.0) == (ofSample sample).minimum) = true ∧
      (sample.elapsed.foldl (joinNumbers greater) (-1.0 / 0.0) ==
        (ofSample sample).maximum) = true := by
  have up : (1.0 / 0.0 : Float).isNaN = false := by decide +kernel
  have down : (-1.0 / 0.0 : Float).isNaN = false := by decide +kernel
  rcases counts_or_missing sample with counts | none
  · obtain ⟨furthestDown, furthestUp⟩ := isFurthest_ofSample sample counts
    obtain ⟨lowNumber, low⟩ := least.key_foldl up
      (fun number _ _ => (rank_bounds (unpack number)).1) furthestDown
    obtain ⟨highNumber, high⟩ := greatest.key_foldl down
      (fun number _ _ => (rank_bounds (unpack number)).2) furthestUp
    rw [beq_iff_rank lowNumber furthestDown.isNumber,
      beq_iff_rank highNumber furthestUp.isNumber]
    exact ⟨OrderDual.toDual_inj.1 low, high⟩
  · obtain ⟨minimum, maximum⟩ := extremes_of_missing sample none
    rw [foldl_joinNumbers least.bounds _ up, foldl_joinNumbers greatest.bounds _ down,
      filter_isNumber_eq_nil none, minimum, maximum, List.foldl_nil, List.foldl_nil]
    decide +kernel

/-- The extremes of any times, infinite times and times that are no numbers included. If a time is
a number, the minimum and the maximum are numbers among the times, and bound all times that are
numbers. If no time is a number, they are the infinities. They are numerically the same in any
order of the times, with further times that are no numbers, and as what folding over the times
from the infinities gives. -/
theorem extremes_of_any_times :
    ((∃ time ∈ sample.elapsed, time.isNaN = false) →
      ((ofSample sample).minimum ∈ sample.elapsed ∧ (ofSample sample).minimum.isNaN = false ∧
        ∀ time ∈ sample.elapsed, time.isNaN = false → (ofSample sample).minimum ≤ time) ∧
      (ofSample sample).maximum ∈ sample.elapsed ∧ (ofSample sample).maximum.isNaN = false ∧
        ∀ time ∈ sample.elapsed, time.isNaN = false → time ≤ (ofSample sample).maximum) ∧
    ((∀ time ∈ sample.elapsed, time.isNaN = true) →
      (ofSample sample).minimum = 1.0 / 0.0 ∧ (ofSample sample).maximum = -1.0 / 0.0) ∧
    (∀ (other : Sample Float) (further : List Float), (∀ time ∈ further, time.isNaN = true) →
      other.elapsed.Perm (sample.elapsed ++ further) →
      ((ofSample other).minimum == (ofSample sample).minimum) = true ∧
        ((ofSample other).maximum == (ofSample sample).maximum) = true) ∧
    ∀ lesser greater : Float → Float → Float, Picks depth lesser → Picks height greater →
      (sample.elapsed.foldl (joinNumbers lesser) (1.0 / 0.0) ==
          (ofSample sample).minimum) = true ∧
        (sample.elapsed.foldl (joinNumbers greater) (-1.0 / 0.0) ==
          (ofSample sample).maximum) = true := by
  refine ⟨?_, extremes_of_missing sample, ?_, ?_⟩
  · intro counts
    obtain ⟨least, greatest⟩ := isFurthest_ofSample sample counts
    refine ⟨⟨least.mem, least.isNumber, ?_⟩, greatest.mem, greatest.isNumber, ?_⟩
    · intro time member valued
      exact (le_iff_rank least.isNumber valued).2 (least.within time member valued)
    · intro time member valued
      exact (le_iff_rank valued greatest.isNumber).2 (greatest.within time member valued)
  · intro other further missing same
    exact extremes_perm sample missing same
  · intro lesser greater least greatest
    exact extremes_eq_foldl sample least greatest

/-- Among 2.0, an infinite time, what is no number and 1.0, the extremes are 1.0 and the infinite
time. Other orders and more times that are no numbers change nothing. -/
theorem extremes_of_any_times_mixed :
    let sample : Sample Float := ⟨[⟨1, 2.0, 0.0⟩, ⟨2, 1.0 / 0.0, 0.0⟩, ⟨3, 1.0, 0.0⟩], by simp⟩
    let other : Sample Float :=
      ⟨[⟨1, 0.0 / 0.0, 0.0⟩, ⟨2, 1.0, 0.0⟩, ⟨3, 2.0, 0.0⟩, ⟨4, 1.0 / 0.0, 0.0⟩], by simp⟩
    let unmeasured : Sample Float := ⟨[⟨1, 0.0 / 0.0, 0.0⟩], by simp⟩
    (ofSample sample).minimum = 1.0 ∧ (ofSample sample).maximum = 1.0 / 0.0 ∧
      (ofSample sample).maximum ∈ sample.elapsed ∧
      ((ofSample other).minimum == (ofSample sample).minimum) = true ∧
      (ofSample unmeasured).minimum = 1.0 / 0.0 ∧
      (sample.elapsed.foldl (joinNumbers Scalar.lesser) (1.0 / 0.0) ==
        (ofSample sample).minimum) = true := by
  intro sample other unmeasured
  obtain ⟨bounded, -, ordered, folded⟩ := extremes_of_any_times sample
  obtain ⟨-, infinite, -, -⟩ := extremes_of_any_times unmeasured
  have counts : ∃ time ∈ sample.elapsed, time.isNaN = false :=
    ⟨2.0, List.mem_cons_self, by decide +kernel⟩
  have none : ∀ time ∈ unmeasured.elapsed, time.isNaN = true := by decide +kernel
  have further : ∀ time ∈ [(0.0 / 0.0 : Float)], time.isNaN = true := by decide +kernel
  have same : other.elapsed.Perm (sample.elapsed ++ [0.0 / 0.0]) := by decide +kernel
  exact ⟨by decide +kernel, by decide +kernel, (bounded counts).2.1,
    (ordered other [0.0 / 0.0] further same).1, (infinite none).1,
    (folded _ _ picks_lesser picks_greater).1⟩

end Aggregate

end BenchFigures
