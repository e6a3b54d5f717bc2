import BenchFigures.Proofs.BarsInRange
import BenchFigures.Proofs.ExtendedValues

/-!
# Clipping is intersection

A bar shows the heights between zero and its value, as far as they are heights of the plotted
range. Moving zero and the value into the range, each on its own, comes to the same as
intersecting the two intervals, as long as they meet. If they do not, both ends are moved to one
bound, the one nearest to zero.

Heights are points of the extended real line, so values and bounds may be infinite.
-/

namespace BenchFigures

open Binary64 (extended le_iff_extended lt_iff_extended isNaN_eq_false_of_le)

/-! ### Moving both ends of an interval -/

section Intervals

variable {α : Type*} [LinearOrder α] {low high first second third : α}

/-- If two intervals meet, the ends of one moved into the other are the ends of what is in
both. -/
theorem uIcc_projIcc_of_meets (ordered : low ≤ high)
    (meets : (Set.uIcc first second ∩ Set.Icc low high).Nonempty) :
    Set.uIcc (Set.projIcc low high ordered first : α) (Set.projIcc low high ordered second) =
      Set.uIcc first second ∩ Set.Icc low high := by
  wlog sorted : first ≤ second generalizing first second
  · rw [Set.uIcc_comm first] at meets ⊢
    rw [Set.uIcc_comm, this meets (le_of_not_ge sorted)]
  have inOrder : (Set.projIcc low high ordered first : α) ≤ Set.projIcc low high ordered second :=
    Set.monotone_projIcc ordered sorted
  rw [Set.uIcc_of_le inOrder]
  rw [Set.uIcc_of_le sorted] at meets ⊢
  obtain ⟨point, ⟨fromFirst, toSecond⟩, fromLow, toHigh⟩ := meets
  have lower : (Set.projIcc low high ordered first : α) = max first low := by
    rw [Set.coe_projIcc, min_eq_right (fromFirst.trans toHigh), max_comm]
  have upper : (Set.projIcc low high ordered second : α) = min second high := by
    rw [Set.coe_projIcc, max_eq_right (le_min ordered (fromLow.trans toSecond)), min_comm]
  rw [lower, upper, Set.Icc_inter_Icc]

/-- Of two intervals that do not meet, one lies below the other. -/
theorem below_or_above_of_apart (ordered : low ≤ high)
    (apart : Set.uIcc first second ∩ Set.Icc low high = ∅) :
    (∀ point ∈ Set.uIcc first second, point < low) ∨
      ∀ point ∈ Set.uIcc first second, high < point := by
  by_cases below : max first second < low
  · exact .inl fun point inside => inside.2.trans_lt below
  by_cases above : high < min first second
  · exact .inr fun point inside => above.trans_le inside.1
  -- Otherwise the greater of the two lower ends is in both intervals.
  have shared : max (min first second) low ∈ Set.uIcc first second ∩ Set.Icc low high :=
    ⟨⟨le_max_left _ _, max_le min_le_max (not_lt.1 below)⟩,
      le_max_right _ _, max_le (not_lt.1 above) ordered⟩
  exact absurd apart (Set.nonempty_of_mem shared).ne_empty

/-- An interval within another one that starts at the same point stays within it when all ends
are moved. -/
theorem uIcc_projIcc_subset (ordered : low ≤ high) (between : second ∈ Set.uIcc first third) :
    Set.uIcc (Set.projIcc low high ordered first : α) (Set.projIcc low high ordered second) ⊆
      Set.uIcc (Set.projIcc low high ordered first : α) (Set.projIcc low high ordered third) := by
  have moved : Monotone fun point => (Set.projIcc low high ordered point : α) :=
    fun _ _ sorted => Set.monotone_projIcc ordered sorted
  apply Set.uIcc_subset_uIcc_left
  exact moved.image_uIcc_subset (Set.mem_image_of_mem _ between)

end Intervals

/-! ### Ranges on the extended line -/

namespace Range

/-- The heights of a range, its bounds included. -/
def heights (range : Range) : Set EReal := Set.Icc (extended range.low) (extended range.high)

/-- Bounds that are in order are numbers, and what they stand for is in order. -/
theorem extended_le {range : Range} (ordered : range.low ≤ range.high) :
    extended range.low ≤ extended range.high := by
  obtain ⟨lowNumber, highNumber⟩ := isNaN_eq_false_of_le ordered
  exact (le_iff_extended lowNumber highNumber).1 ordered

/-- The point of a range nearest to a height. -/
noncomputable def nearest {range : Range} (ordered : range.low ≤ range.high) (height : EReal) :
    EReal :=
  Set.projIcc _ _ (extended_le ordered) height

theorem nearest_mono {range : Range} (ordered : range.low ≤ range.high) :
    Monotone (nearest ordered) :=
  fun _ _ sorted => Set.monotone_projIcc (extended_le ordered) sorted

/-- A number moved into a range stands for the point of the range nearest to it. -/
theorem extended_moved {range : Range} (ordered : range.low ≤ range.high) {value : Float}
    (number : value.isNaN = false) :
    extended (range.moved value) = nearest ordered (extended value) := by
  obtain ⟨lowNumber, highNumber⟩ := isNaN_eq_false_of_le ordered
  have spread := extended_le ordered
  rw [moved, nearest, Set.coe_projIcc]
  simp only [lt_iff_extended number lowNumber, lt_iff_extended highNumber number]
  split
  · rename_i below
    rw [min_eq_right (below.le.trans spread), max_eq_left below.le]
  · rename_i notBelow
    split
    · rename_i above
      rw [min_eq_left above.le, max_eq_right spread]
    · rename_i notAbove
      rw [min_eq_right (not_lt.1 notAbove), max_eq_right (not_lt.1 notBelow)]

/-- Numbers are moved to numbers. -/
theorem isNaN_moved {range : Range} (ordered : range.low ≤ range.high) {value : Float}
    (number : value.isNaN = false) : (range.moved value).isNaN = false :=
  (contains_moved_iff ordered value).2.trans number

end Range

/-! ### Bars on the extended line -/

namespace Bar

/-- The heights from zero to a value: those of its bar if no range cuts it off. -/
def fullHeights (value : Float) : Set EReal := Set.uIcc 0 (extended value)

/-- The heights of a bar, up or down from its base to its top. -/
def heights (bar : Bar Float) : Set EReal := Set.uIcc (extended bar.base) (extended bar.top)

/-- A bar is what a range leaves of the full bar of a value. -/
structure IsClipped (range : Range) (value : Float) (bar : Bar Float) : Prop where
  base : bar.base.isNaN = false
  top : bar.top.isNaN = false
  meets : (fullHeights value ∩ range.heights).Nonempty →
    bar.heights = fullHeights value ∩ range.heights
  /-- If nothing is left, the bar is the bound nearest to zero, which is between zero and every
  height of the range. It is the lower one if the full bar lies below it, and the upper one if
  the full bar lies above. -/
  apart : fullHeights value ∩ range.heights = ∅ →
    ∃ bound, bar.heights = {extended bound} ∧
      (∀ height ∈ range.heights, extended bound ∈ Set.uIcc 0 height) ∧
      ((bound = range.low ∧ ∀ height ∈ fullHeights value, height < extended bound) ∨
        (bound = range.high ∧ ∀ height ∈ fullHeights value, extended bound < height))

section

variable {range : Range} (ordered : range.low ≤ range.high)
include ordered

/-- A bar reaches from the point of the range nearest to zero to the one nearest to its value. -/
theorem heights_within (left : Float) {value : Float} (number : value.isNaN = false)
    (color : Color) :
    (within range left value color).heights =
      Set.uIcc (Range.nearest ordered 0) (Range.nearest ordered (extended value)) := by
  rw [heights, within, Range.extended_moved ordered (by decide +kernel),
    Range.extended_moved ordered number, Binary64.extended_zero]

/-- The bar of a value in a range is what the range leaves of the full bar. -/
theorem isClipped_within (left : Float) {value : Float} (number : value.isNaN = false)
    (color : Color) : (within range left value color).IsClipped range value := by
  have fromZero : (0 : EReal) ∈ fullHeights value := Set.left_mem_uIcc
  have toValue : extended value ∈ fullHeights value := Set.right_mem_uIcc
  have spread := Range.extended_le ordered
  constructor
  case base => exact Range.isNaN_moved ordered (by decide +kernel)
  case top => exact Range.isNaN_moved ordered number
  case meets =>
    intro meets
    rw [heights_within ordered left number]
    exact uIcc_projIcc_of_meets spread meets
  case apart =>
    intro apart
    rw [heights_within ordered left number, Range.nearest, Range.nearest]
    rcases below_or_above_of_apart spread apart with below | above
    · refine ⟨range.low, ?_, ?_, .inl ⟨rfl, below⟩⟩
      · rw [Set.projIcc_of_le_left spread (below _ fromZero).le,
          Set.projIcc_of_le_left spread (below _ toValue).le, Set.uIcc_self]
      · intro height inside
        exact Set.mem_uIcc_of_le (below _ fromZero).le inside.1
    · refine ⟨range.high, ?_, ?_, .inr ⟨rfl, above⟩⟩
      · rw [Set.projIcc_of_right_le spread (above _ fromZero).le,
          Set.projIcc_of_right_le spread (above _ toValue).le, Set.uIcc_self]
      · intro height inside
        exact Set.mem_uIcc_of_ge inside.2 (above _ fromZero).le

/-- The top of a bar is not above the top of the bar of a greater value. -/
theorem top_within_mono {value other : Float} (atMost : value ≤ other) (left : Float)
    (color : Color) :
    (within range left value color).top ≤ (within range left other color).top := by
  obtain ⟨number, otherNumber⟩ := isNaN_eq_false_of_le atMost
  change range.moved value ≤ range.moved other
  rw [le_iff_extended (Range.isNaN_moved ordered number) (Range.isNaN_moved ordered otherNumber),
    Range.extended_moved ordered number, Range.extended_moved ordered otherNumber]
  apply Range.nearest_mono ordered
  exact (le_iff_extended number otherNumber).1 atMost

/-- The bar of a value between zero and another one is within the bar of the other. -/
theorem heights_within_subset {value other : Float} (number : value.isNaN = false)
    (otherNumber : other.isNaN = false) (between : extended value ∈ fullHeights other)
    (left : Float) (color : Color) :
    (within range left value color).heights ⊆ (within range left other color).heights := by
  rw [heights_within ordered left number, heights_within ordered left otherNumber]
  exact uIcc_projIcc_subset (Range.extended_le ordered) between

/-- A bar of any number in a range that has points shows exactly the heights of the full bar that
the range has, or the bound nearest to zero if it has none of them. Its top rises with the value,
and a bar whose value lies between zero and another value is contained in the bar of that. -/
theorem clipped?_is_intersection (left : Float) (color : Color) {value : Float}
    (number : value.isNaN = false) :
    ∃ bar, clipped? left value range.low range.high color = some bar ∧
      bar.left = left ∧ bar.right = left + width ∧ bar.color = color ∧
      bar.IsClipped range value ∧
      ∀ other : Float, other.isNaN = false →
        ∃ bar', clipped? left other range.low range.high color = some bar' ∧
          (value ≤ other → bar.top ≤ bar'.top) ∧
          (extended value ∈ fullHeights other → bar.heights ⊆ bar'.heights) := by
  refine ⟨within range left value color, clipped?_eq_within ordered left value color, rfl, rfl,
    rfl, isClipped_within ordered left number color, ?_⟩
  intro other otherNumber
  refine ⟨within range left other color, clipped?_eq_within ordered left other color, ?_, ?_⟩
  · intro atMost
    exact top_within_mono ordered atMost left color
  · intro between
    exact heights_within_subset ordered number otherNumber between left color

end

/-- In a range from three upwards without end, a bar that points down without end is the single
height of three. -/
theorem clipped?_is_intersection_unbounded :
    let range : Range := ⟨3.0, 1.0 / 0.0⟩
    ∃ bar, clipped? 0.5 (-1.0 / 0.0) range.low range.high .black = some bar ∧
      bar.heights = {3} := by
  intro range
  have ordered : range.low ≤ range.high := by decide +kernel
  have number : (-1.0 / 0.0 : Float).isNaN = false := by decide +kernel
  obtain ⟨bar, drawn, -, -, -, clipped, -⟩ := clipped?_is_intersection ordered 0.5 .black number
  have three : extended range.low = 3 := by
    have value : Binary64.value? range.low = some 3 := by decide +kernel
    rw [Binary64.extended_of_value? value]
    rfl
  have down : ∀ height ∈ fullHeights (-1.0 / 0.0), height ≤ 0 := by
    have below : extended (-1.0 / 0.0) ≤ 0 := by
      rw [← Binary64.extended_zero, ← le_iff_extended number (by decide +kernel)]
      decide +kernel
    intro height inside
    rw [fullHeights, Set.uIcc_of_ge below] at inside
    exact inside.2
  have apart : fullHeights (-1.0 / 0.0) ∩ range.heights = ∅ := by
    apply Set.eq_empty_of_forall_notMem
    intro height ⟨full, inside⟩
    have above : 3 ≤ height := three ▸ inside.1
    exact absurd (above.trans (down height full)) (by norm_num)
  obtain ⟨bound, single, -, ⟨rfl, -⟩ | ⟨rfl, above⟩⟩ := clipped.apart apart
  · exact ⟨bar, drawn, three ▸ single⟩
  · have lowest := (above 0 Set.left_mem_uIcc).le.trans' (Range.extended_le ordered)
    rw [three] at lowest
    exact absurd lowest (by norm_num)

end Bar

end BenchFigures
