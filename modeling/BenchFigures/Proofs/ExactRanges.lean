import BenchFigures.Chart.Elapsed
import BenchFigures.Proofs.ExactStatistics

/-!
# Ranges of elapsed times without rounding

Read over the rationals, the range of a chart of elapsed times is never inverted, and it has
room as soon as there is a margin. If it is not anchored at two averages, it reaches from the
smallest minimum to the largest average, with the margin on both sides. No average is below its
minimum, so all minima and averages lie in such a range, and their bars are not cut.
-/

namespace BenchFigures

/-- A value in a range is held where it is. -/
theorem Bar.held?_eq_self {low high value : Rat} (above : low ≤ value) (below : value ≤ high) :
    Bar.held? low high value = some value := by
  have points : Scalar.le low high = true := decide_eq_true (above.trans below)
  have notBelow : Scalar.lt value low = false := decide_eq_false above.not_gt
  have notAbove : Scalar.lt high value = false := decide_eq_false below.not_gt
  simp [held?, points, notBelow, notAbove]

/-- The bar of a value in a range ends at the value. -/
theorem Bar.top_clipped? {low high value : Rat} (above : low ≤ value) (below : value ≤ high)
    (left : Rat) (color : Color) :
    ∃ bar, Bar.clipped? left value low high color = some bar ∧ bar.top = value := by
  have points : Scalar.le low high = true := decide_eq_true (above.trans below)
  obtain ⟨base, based⟩ : ∃ base, held? low high (Scalar.ofInt 0) = some base := by
    simp [held?, points]
  refine ⟨⟨left, base, left + width, value, color⟩, ?_, rfl⟩
  rw [clipped?, based, held?_eq_self above below]
  rfl

namespace ElapsedGroup

/-- All aggregates shown for some categories. -/
def aggregates (groups : List (ElapsedGroup Rat)) : List (Aggregate Rat) :=
  groups.flatMap fun group => [group.bitmask, group.union]

/-- The aggregates of a category have the statistics of their samples. -/
structure IsMeasured (group : ElapsedGroup Rat) : Prop where
  bitmask : group.bitmask.IsMeasured
  union : group.union.IsMeasured

section

variable {groups : List (ElapsedGroup Rat)}

/-- Where there is a category, there are aggregates. -/
theorem aggregates_ne_nil (filled : groups ≠ []) : aggregates groups ≠ [] := by
  obtain ⟨first, rest, rfl⟩ := List.exists_cons_of_ne_nil filled
  simp [aggregates]

/-- The range of some categories is anchored at two averages if that leaves room, and covers
everything otherwise. -/
theorem range?_of_filled (filled : groups ≠ []) (margin : Rat) :
    range? groups margin =
      some (if (groups.getLast filled).union.average - margin <
          (groups.head filled).union.average + margin
        then anchored (groups.head filled) (groups.getLast filled) margin
        else covering groups margin) := by
  rw [range?, List.head?_eq_some_head filled, List.getLast?_eq_some_getLast filled]
  by_cases room : (groups.getLast filled).union.average - margin <
      (groups.head filled).union.average + margin
  · have holds : Scalar.lt ((groups.getLast filled).union.average - margin)
        ((groups.head filled).union.average + margin) = true := decide_eq_true room
    simp only [anchored, holds, if_pos room]
    rfl
  · have fails : Scalar.lt ((groups.getLast filled).union.average - margin)
        ((groups.head filled).union.average + margin) = false := decide_eq_false room
    simp only [anchored, fails, if_neg room]
    rfl

/-- A covering range, without its margins, reaches from the smallest minimum to the largest
average. -/
theorem covering_spec (filled : groups ≠ []) (margin : Rat) :
    IsLeast {minimum | ∃ aggregate ∈ aggregates groups, aggregate.minimum = minimum}
        ((covering groups margin).1 + margin) ∧
      IsGreatest {average | ∃ aggregate ∈ aggregates groups, aggregate.average = average}
        ((covering groups margin).2 - margin) := by
  have shown := aggregates_ne_nil filled
  have least : IsLeast _ (Scalar.least ((aggregates groups).map Aggregate.minimum)) :=
    Scalar.isLeast_least (by simpa using shown)
  have greatest : IsGreatest _ (Scalar.greatest ((aggregates groups).map Aggregate.average)) :=
    Scalar.isGreatest_greatest (by simpa using shown)
  have bottom : (covering groups margin).1 =
      Scalar.least ((aggregates groups).map Aggregate.minimum) - margin := rfl
  have top : (covering groups margin).2 =
      Scalar.greatest ((aggregates groups).map Aggregate.average) + margin := rfl
  rw [bottom, top, sub_add_cancel, add_sub_cancel_right]
  simp only [List.mem_map] at least greatest
  exact ⟨least, greatest⟩

/-- A covering range, without its margins, holds every minimum and average. -/
theorem covering_holds (filled : groups ≠ []) (measured : ∀ group ∈ groups, group.IsMeasured)
    (margin : Rat) {aggregate : Aggregate Rat} (member : aggregate ∈ aggregates groups) :
    (covering groups margin).1 + margin ≤ aggregate.minimum ∧
      aggregate.minimum ≤ aggregate.average ∧
      aggregate.average ≤ (covering groups margin).2 - margin := by
  obtain ⟨⟨-, least⟩, -, greatest⟩ := covering_spec filled margin
  refine ⟨least ⟨aggregate, member, rfl⟩, ?_, greatest ⟨aggregate, member, rfl⟩⟩
  obtain ⟨group, inGroups, inGroup⟩ := List.mem_flatMap.1 member
  have both := measured group inGroups
  rcases List.mem_pair.1 inGroup with rfl | rfl
  · exact both.bitmask.minimum_le_average
  · exact both.union.minimum_le_average

/-- The range of some categories with measured aggregates and a margin that is not negative. It
is never inverted, and has room if there is a margin. It is anchored at the union averages of
the last and of the first category if they leave room with the margin. Otherwise it reaches,
margins aside, from the smallest minimum to the largest average, it holds every minimum and
average, and the bars of these end where they should. -/
theorem range?_ordered_and_covering (filled : groups ≠ [])
    (measured : ∀ group ∈ groups, group.IsMeasured) {margin : Rat} (nonnegative : 0 ≤ margin) :
    ∃ bottom top, range? groups margin = some (bottom, top) ∧ bottom ≤ top ∧
      (0 < margin → bottom < top) ∧
      let low := (groups.getLast filled).union.average - margin
      let high := (groups.head filled).union.average + margin
      (low < high → bottom = low ∧ top = high) ∧
      (¬ low < high →
        IsLeast {minimum | ∃ aggregate ∈ aggregates groups, aggregate.minimum = minimum}
          (bottom + margin) ∧
        IsGreatest {average | ∃ aggregate ∈ aggregates groups, aggregate.average = average}
          (top - margin) ∧
        ∀ aggregate ∈ aggregates groups, ∀ value ∈ [aggregate.average, aggregate.minimum],
          bottom ≤ value ∧ value ≤ top ∧
          ∀ left color, ∃ bar, Bar.clipped? left value bottom top color = some bar ∧
            bar.top = value) := by
  rw [range?_of_filled filled]
  by_cases room : (groups.getLast filled).union.average - margin <
      (groups.head filled).union.average + margin
  · rw [if_pos room]
    refine ⟨_, _, rfl, room.le, ?_, ?_, ?_⟩
    · intro _
      exact room
    · intro _
      exact ⟨rfl, rfl⟩
    · intro noRoom
      exact absurd room noRoom
  · rw [if_neg room]
    have spec := covering_spec filled margin
    have holds {aggregate : Aggregate Rat} (member : aggregate ∈ aggregates groups) :=
      covering_holds filled measured margin member
    obtain ⟨bottom, top, covers⟩ : ∃ bottom top, covering groups margin = (bottom, top) :=
      ⟨_, _, rfl⟩
    rw [covers] at spec holds
    -- Any aggregate will do to see that the range is not inverted.
    obtain ⟨some, shown⟩ := List.exists_mem_of_ne_nil _ (aggregates_ne_nil filled)
    obtain ⟨above, between, below⟩ := holds shown
    have ordered : bottom + margin ≤ top - margin := above.trans (between.trans below)
    refine ⟨bottom, top, by rw [covers], ?_, ?_, ?_, ?_⟩
    · linarith
    · intro positive
      linarith
    · intro increasing
      exact absurd increasing room
    · intro _
      refine ⟨spec.1, spec.2, ?_⟩
      intro aggregate member value plotted
      obtain ⟨above, between, below⟩ := holds member
      have inside : bottom ≤ value ∧ value ≤ top := by
        rcases List.mem_pair.1 plotted with rfl | rfl
        · constructor <;> linarith
        · constructor <;> linarith
      exact ⟨inside.1, inside.2, Bar.top_clipped? inside.1 inside.2⟩

/-- A category of two samples. -/
def ofSamples (label : String) (bitmask union : Sample Rat) : ElapsedGroup Rat :=
  ⟨label, .ofSample bitmask, .ofSample union⟩

/-- A sample of two runs. -/
def twice (first second : Rat) : Sample Rat := ⟨[⟨1, first, 0⟩, ⟨2, second, 0⟩], by simp⟩

/-- Levels that get slower leave no room between the anchors. Their range covers all that is
shown, from 100 to 405 and 50 more on both sides. -/
theorem range?_ordered_and_covering_slower :
    let groups := [ofSamples "-O0" (twice 100 110) (twice 100 108),
      ofSamples "-O3" (twice 400 410) (twice 400 408)]
    range? groups 50 = some (50, 455) ∧
      ∀ aggregate ∈ aggregates groups, 50 ≤ aggregate.minimum ∧ aggregate.average ≤ 455 := by
  intro groups
  have measured : ∀ group ∈ groups, group.IsMeasured := by
    intro group member
    rcases List.mem_pair.1 member with rfl | rfl <;> exact ⟨rfl, rfl⟩
  have ranged : range? groups 50 = some (50, 455) := by decide +kernel
  have noRoom : ¬ (groups.getLast (List.cons_ne_nil _ _)).union.average - 50 <
      (groups.head (List.cons_ne_nil _ _)).union.average + 50 := by decide +kernel
  obtain ⟨bottom, top, computed, -, -, -, covers⟩ :=
    range?_ordered_and_covering (List.cons_ne_nil _ _) measured (by norm_num : (0 : Rat) ≤ 50)
  obtain ⟨rfl, rfl⟩ : 50 = bottom ∧ 455 = top :=
    Prod.ext_iff.1 (Option.some.inj (ranged.symm.trans computed))
  refine ⟨ranged, fun aggregate member => ?_⟩
  have plotted := (covers noRoom).2.2 aggregate member
  exact ⟨(plotted aggregate.minimum (by simp)).1, (plotted aggregate.average (by simp)).2.1⟩

end

end ElapsedGroup

end BenchFigures
