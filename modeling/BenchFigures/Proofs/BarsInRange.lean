import BenchFigures.Proofs.LoadedLevels
import BenchFigures.Proofs.NotANumber

/-!
# Where bars end

The base of a bar is held in the range of its chart, and so is its top if the value is a
number. What is no number is not moved, so the bar of it has a top that lies in no range.

A least measurement is always a number. An average may be none, and a speedup is none if one
of its two averages is, or if both are zero or both are infinite.
-/

namespace BenchFigures

/-- A height is a point of a range. -/
def Range.Contains (range : Range) (height : Float) : Prop :=
  range.low ≤ height ∧ height ≤ range.high

instance (range : Range) (height : Float) : Decidable (range.Contains height) :=
  inferInstanceAs (Decidable (_ ∧ _))

/-- What compares as at most something is a number, and so is the other. -/
theorem Binary64.isNaN_eq_false_of_le {first second : Float} (ordered : first ≤ second) :
    first.isNaN = false ∧ second.isNaN = false := by
  have compared : ((unpack first).compare (unpack second)).any Ordering.isLE = true :=
    of_decide_eq_true ordered
  cases order : (unpack first).compare (unpack second) with
  | none => simp [order] at compared
  | some order' => exact isNaN_eq_false_of_compare order

/-! ### One bar -/

namespace Range

/-- A value moved to the end of a range that it is beyond, if any. -/
def moved (range : Range) (value : Float) : Float :=
  if value < range.low then range.low else if range.high < value then range.high else value

/-- In a range that has points, a number is moved to one. -/
theorem contains_moved {range : Range} (ordered : range.low ≤ range.high) {value : Float}
    (number : value.isNaN = false) : range.Contains (range.moved value) := by
  obtain ⟨lowNumber, highNumber⟩ := Binary64.isNaN_eq_false_of_le ordered
  rw [moved]
  by_cases below : value < range.low
  · rw [if_pos below]
    exact ⟨(Binary64.le_iff_rank lowNumber lowNumber).2 le_rfl, ordered⟩
  · by_cases above : range.high < value
    · rw [if_neg below, if_pos above]
      exact ⟨ordered, (Binary64.le_iff_rank highNumber highNumber).2 le_rfl⟩
    · rw [if_neg below, if_neg above]
      rw [← Binary64.not_le_iff_lt number lowNumber, not_not] at below
      rw [← Binary64.not_le_iff_lt highNumber number, not_not] at above
      exact ⟨below, above⟩

/-- What is no number is not moved. -/
theorem moved_missing (range : Range) {value : Float} (missing : value.isNaN = true) :
    range.moved value = value := by
  rw [moved, if_neg, if_neg]
  · intro above
    rw [(Binary64.isNaN_eq_false_of_lt above).2] at missing
    exact Bool.false_ne_true missing
  · intro below
    rw [(Binary64.isNaN_eq_false_of_lt below).1] at missing
    exact Bool.false_ne_true missing

/-- In a range that has points, exactly the numbers are moved to one, and what is no number
stays none. -/
theorem contains_moved_iff {range : Range} (ordered : range.low ≤ range.high) (value : Float) :
    (range.Contains (range.moved value) ↔ value.isNaN = false) ∧
      (range.moved value).isNaN = value.isNaN := by
  cases missing : value.isNaN with
  | true =>
    rw [moved_missing range missing]
    refine ⟨iff_of_false ?_ (by decide), missing⟩
    intro contained
    rw [(Binary64.isNaN_eq_false_of_le contained.1).2] at missing
    exact Bool.false_ne_true missing
  | false =>
    have contained := contains_moved ordered missing
    exact ⟨iff_of_true contained rfl, (Binary64.isNaN_eq_false_of_le contained.1).2⟩

end Range

namespace Bar

/-- In a range that has points, values are moved. -/
theorem held?_eq_some {range : Range} (ordered : range.low ≤ range.high) (value : Float) :
    held? range.low range.high value = some (range.moved value) := by
  have points : Scalar.le range.low range.high = true := decide_eq_true ordered
  simp only [held?, if_pos points, Binary64.scalarLt_iff, Range.moved]

/-- The bar of a value in a range: zero and the value, each moved into the range. -/
def within (range : Range) (left value : Float) (color : Color) : Bar Float where
  left := left
  base := range.moved (Scalar.ofInt 0)
  right := left + width
  top := range.moved value
  color := color

theorem clipped?_eq_within {range : Range} (ordered : range.low ≤ range.high)
    (left value : Float) (color : Color) :
    clipped? left value range.low range.high color = some (within range left value color) := by
  rw [clipped?, held?_eq_some ordered, held?_eq_some ordered]
  rfl

/-- A bar shows a value in a range: it stands on a point of the range, and it ends at one if
the value is a number and only then. -/
structure Shows (range : Range) (value : Float) (bar : Bar Float) : Prop where
  base : range.Contains bar.base
  top : range.Contains bar.top ↔ value.isNaN = false
  /-- The top is no number if the value is none. -/
  missing : bar.top.isNaN = value.isNaN

/-- In a range that has points, every value has a bar that shows it. -/
theorem shows_clipped? {range : Range} (ordered : range.low ≤ range.high) (left value : Float)
    (color : Color) :
    ∃ bar, clipped? left value range.low range.high color = some bar ∧ bar.Shows range value := by
  obtain ⟨top, missing⟩ := Range.contains_moved_iff ordered value
  exact ⟨within range left value color, clipped?_eq_within ordered left value color,
    Range.contains_moved ordered (by decide +kernel), top, missing⟩

/-- In a range without points there are no bars. -/
theorem clipped?_eq_none {range : Range} (empty : ¬ range.low ≤ range.high) (left value : Float)
    (color : Color) : clipped? left value range.low range.high color = none := by
  have pointless : Scalar.le range.low range.high = false := decide_eq_false empty
  simp [clipped?, held?, pointless]

end Bar

/-! ### The bars of a drawing -/

/-- The mark of a bar on a picture. -/
def Frame.mark (frame : Frame) (bar : Bar Float) : Mark :=
  { box := frame.rectangle bar.left bar.base bar.right bar.top, color := bar.color }

namespace Sketch

/-- A bar leaves its mark, if there is one. -/
theorem marks_bar (frame : Frame) (left value : Float) (color : Color) :
    (bar frame left value color).marks =
      ((Bar.clipped? left value frame.vertical.low frame.vertical.high color).map
        frame.mark).toList := by
  rw [bar]
  split
  · rename_i shape found
    rw [found]
    rfl
  · rename_i found
    rw [found]
    rfl

/-- What is drawn in two parts leaves the marks of the second part if the first did not stop. -/
theorem marks_andThen (first second : Sketch) :
    (first.andThen second).marks =
      first.marks ++ match first.failure with
        | none => second.marks
        | some _ => [] := by
  rw [andThen]
  cases stopped : first.failure <;> simp

/-- Parts that all go through, or all leave no marks, leave the marks of each. -/
theorem marks_inOrder {parts : List Sketch}
    (even : (∀ part ∈ parts, part.failure = none) ∨ ∀ part ∈ parts, part.marks = []) :
    (inOrder parts).marks = parts.flatMap marks := by
  induction parts with
  | nil => rfl
  | cons first rest inductionHypothesis =>
    have whole : inOrder (first :: rest) = first.andThen (inOrder rest) := rfl
    rw [List.forall_mem_cons, List.forall_mem_cons] at even
    rw [whole, marks_andThen, List.flatMap_cons,
      inductionHypothesis (even.imp And.right And.right)]
    cases stopped : first.failure with
    | none => rfl
    | some cause =>
      rcases even with ⟨goesThrough, -⟩ | ⟨-, bare⟩
      · simp [stopped] at goesThrough
      · simp only [List.append_cancel_left_eq]
        exact (List.flatMap_eq_nil_iff.2 bare).symm

/-- Parts drawn before others leave their marks, and the others follow if nothing stopped. -/
theorem marks_inOrder_append (parts others : List Sketch) :
    (inOrder (parts ++ others)).marks =
      (inOrder parts).marks ++ match (inOrder parts).failure with
        | none => (inOrder others).marks
        | some _ => [] := by
  induction parts with
  | nil => rfl
  | cons first rest inductionHypothesis =>
    have whole (parts : List Sketch) :
        inOrder (first :: parts) = first.andThen (inOrder parts) := rfl
    rw [List.cons_append, whole, whole, marks_andThen, marks_andThen, failure_andThen,
      inductionHypothesis]
    cases first.failure <;> simp

/-- A single part is drawn as it is. -/
theorem inOrder_singleton (part : Sketch) : inOrder [part] = part := by
  obtain ⟨marks, failure⟩ := part
  cases failure <;> simp [inOrder, andThen, blank]

end Sketch

namespace Plot

/-- The bars of a series in a range, one for each category if the range has points. -/
def Series.bars (series : Series) (range : Range) : List (Bar Float) :=
  series.values.zipIdx.filterMap fun (value, category) =>
    Bar.clipped? (Float.ofNat category + series.offset) value range.low range.high series.color

/-- In a range that has points, the bars of a series show its values. -/
theorem Series.shows_bars (series : Series) {range : Range} (ordered : range.low ≤ range.high) :
    List.Forall₂ (fun value bar => bar.Shows range value) series.values (series.bars range) := by
  rw [bars]
  generalize series.values = values
  generalize 0 = start
  induction values generalizing start with
  | nil => exact .nil
  | cons value rest inductionHypothesis =>
    obtain ⟨bar, found, shows⟩ :=
      Bar.shows_clipped? ordered (Float.ofNat start + series.offset) value series.color
    simp only [List.zipIdx_cons, List.filterMap_cons, found]
    exact .cons shows (inductionHypothesis (start + 1))

/-- In a range without points, a series has no bars. -/
theorem Series.bars_eq_nil (series : Series) {range : Range}
    (empty : ¬ range.low ≤ range.high) : series.bars range = [] := by
  rw [bars, List.filterMap_eq_nil_iff]
  intro value _
  exact Bar.clipped?_eq_none empty _ _ _

/-- Drawing a series leaves the marks of its bars. -/
theorem Series.marks_sketch (series : Series) (frame : Frame) :
    (series.sketch frame).marks = (series.bars frame.vertical).map frame.mark := by
  rw [Series.sketch, Sketch.marks_inOrder]
  · simp only [bars, List.map_filterMap, List.flatMap_map, Sketch.marks_bar]
    rw [List.filterMap_eq_flatMap_toList]
  · by_cases ordered : frame.vertical.low ≤ frame.vertical.high
    · refine .inl (List.forall_mem_map.2 fun value _ => ?_)
      rw [Sketch.failure_bar, if_pos ordered]
    · refine .inr (List.forall_mem_map.2 fun value _ => ?_)
      rw [Sketch.marks_bar, Bar.clipped?_eq_none ordered]
      rfl

/-- The bars of all series that a drawing gets to: none if it stopped before. -/
def bars (stopped : Option Cause) (range : Range) (series : List Series) : List (Bar Float) :=
  match stopped with
  | none => series.flatMap (·.bars range)
  | some _ => []

/-- Drawing all series leaves the marks of their bars, series by series. -/
theorem marks_series (series : List Series) (frame : Frame) :
    (Sketch.inOrder (series.map (·.sketch frame))).marks =
      (series.flatMap (·.bars frame.vertical)).map frame.mark := by
  rw [Sketch.marks_inOrder]
  · simp only [List.flatMap_map, List.map_flatMap, Series.marks_sketch]
  · by_cases ordered : frame.vertical.low ≤ frame.vertical.high
    · refine .inl (List.forall_mem_map.2 fun one _ => ?_)
      rw [failure_series, if_pos (.inr ordered)]
    · refine .inr (List.forall_mem_map.2 fun one _ => ?_)
      rw [Series.marks_sketch, Series.bars_eq_nil one ordered]
      rfl

/-- A drawing shows some values in a range with bars that lie between its lines and its legend,
or it has stopped before the first bar. -/
inductive DrawsBars (sketch lines legend : Sketch) (frame : Frame) (values : List Float)
    (bars : List (Bar Float)) : Prop
  | shown (marks_eq : sketch.marks = lines.marks ++ bars.map frame.mark ++ legend.marks)
    (failure_eq : sketch.failure = legend.failure)
    (shows : List.Forall₂ (fun value bar => bar.Shows frame.vertical value) values bars)
  | stopped (marks_eq : sketch.marks = lines.marks) (failure_ne : sketch.failure ≠ none)
    (bars_eq : bars = [])

section

variable [DrawingLibrary]

/-- The drawing of a chart with a category shows the values of its series. -/
theorem drawsBars_chart (style : Style) (typeface : Typeface) (panes : Panes) (vertical : Range)
    (labels : Labels) (major minor : Float) {series : List Series}
    (filled : ∃ one ∈ series, one.values ≠ []) :
    let frame : Frame := ⟨panes.area, categories labels.columns.length, vertical⟩
    let under := lines style typeface panes frame labels major minor
    DrawsBars (chart style typeface panes vertical labels major minor series) under
      (legend style typeface panes.area series) frame (series.flatMap (·.values))
      (bars under.failure vertical series) := by
  intro frame under
  let drawn := Sketch.inOrder (series.map (·.sketch frame))
  have whole : chart style typeface panes vertical labels major minor series =
      under.andThen (Sketch.inOrder (series.map (·.sketch frame) ++
        [legend style typeface panes.area series])) := rfl
  have drawnFailure : drawn.failure =
      if vertical.low ≤ vertical.high then none else some .emptyRange := by
    rw [Sketch.failure_inOrder, failure_bars filled frame]
  have drawnMarks : drawn.marks = (series.flatMap (·.bars vertical)).map frame.mark :=
    marks_series series frame
  rw [whole]
  cases inLines : under.failure with
  | some cause =>
    refine .stopped ?_ ?_ rfl
    · rw [Sketch.marks_andThen, inLines, List.append_nil]
    · simp [Sketch.failure_andThen, inLines]
  | none =>
    by_cases ordered : vertical.low ≤ vertical.high
    · rw [if_pos ordered] at drawnFailure
      refine .shown ?_ ?_ ?_
      · simp only [Sketch.marks_andThen, inLines, Sketch.marks_inOrder_append, drawnFailure,
          drawnMarks, Sketch.inOrder_singleton, bars, drawn, List.append_assoc]
      · rw [Sketch.failure_andThen, inLines, Sketch.failure_inOrder, List.findSome?_append,
          failure_bars filled frame, if_pos ordered, List.findSome?_singleton]
        rfl
      · refine List.rel_flatMap (List.forall₂_same.2 fun _ _ => rfl) ?_
        rintro one _ rfl
        exact one.shows_bars ordered
    · rw [if_neg ordered] at drawnFailure
      have barless : series.flatMap (·.bars vertical) = [] :=
        List.flatMap_eq_nil_iff.2 fun one _ => one.bars_eq_nil ordered
      refine .stopped ?_ ?_ barless
      · simp only [Sketch.marks_andThen, inLines, Sketch.marks_inOrder_append, drawnFailure,
          drawnMarks, barless, drawn, List.map_nil, List.append_nil]
      · rw [Sketch.failure_andThen, inLines, Sketch.failure_inOrder, List.findSome?_append,
          failure_bars filled frame, if_neg ordered]
        simp

end

end Plot

/-! ### The bars of both charts -/

section

variable [DrawingLibrary]

namespace ElapsedChart

variable (chart : ElapsedChart) (style : Style) (typeface : Typeface) (range : Range)

/-- What is under the bars of a chart of elapsed times. -/
def lines : Sketch :=
  Plot.lines style typeface (Plot.panes style chart.settings.width chart.settings.height)
    (chart.frame style range) (chart.labels range) chart.settings.majorStep
    chart.settings.minorStep

/-- The bars that the drawing of a chart of elapsed times gets to in a range. -/
def bars : List (Bar Float) :=
  Plot.bars (chart.lines style typeface range).failure range chart.series

/-- The drawing of a chart of elapsed times shows its values: for each decoding, the averages
of all levels and then their minima. -/
theorem drawsBars {levels : List LevelResults} (filled : levels ≠ []) (encoding : Encoding)
    (settings : ElapsedSettings) :
    let chart := ofLevels levels encoding settings
    let shown (decoding : Decoding) (statistic : Aggregate Float → Float) :=
      levels.map fun results => statistic (results.get ⟨decoding, encoding⟩)
    Plot.DrawsBars (chart.drawing style typeface range) (chart.lines style typeface range)
      (chart.legend style typeface) (chart.frame style range)
      (shown .bitmask Aggregate.average ++ shown .bitmask Aggregate.minimum ++
        shown .union Aggregate.average ++ shown .union Aggregate.minimum)
      (chart.bars style typeface range) := by
  intro chart shown
  have values : chart.series.flatMap (·.values) =
      shown .bitmask Aggregate.average ++ shown .bitmask Aggregate.minimum ++
        shown .union Aggregate.average ++ shown .union Aggregate.minimum := by
    simp [chart, shown, series, ofLevels, List.flatMap_cons, Function.comp_def]
  have someFilled : ∃ one ∈ chart.series, one.values ≠ [] :=
    ⟨_, List.mem_cons_self, by simpa [chart, ofLevels] using filled⟩
  have count : (chart.labels range).columns.length = chart.groups.length := List.length_map _
  have drawn := Plot.drawsBars_chart style typeface
    (Plot.panes style chart.settings.width chart.settings.height) range (chart.labels range)
    chart.settings.majorStep chart.settings.minorStep someFilled
  rw [values, count] at drawn
  exact drawn

end ElapsedChart

namespace SpeedupChart

variable (chart : SpeedupChart) (style : Style) (typeface : Typeface)

/-- What is under the bars of a chart of speedups. -/
def lines : Sketch :=
  Plot.lines style typeface (Plot.panes style chart.settings.width chart.settings.height)
    (chart.frame style) (chart.labels chart.range) chart.settings.majorStep
    chart.settings.minorStep

/-- The bars that the drawing of a chart of speedups gets to. -/
def bars : List (Bar Float) :=
  Plot.bars (chart.lines style typeface).failure chart.range chart.series

variable {chart}

/-- The drawing of a chart of speedups shows its values: those for register encoding and then
those for stack encoding. -/
theorem drawsBars (filled : chart.groups ≠ []) :
    Plot.DrawsBars (chart.drawing style typeface) (chart.lines style typeface)
      (chart.legend style typeface) (chart.frame style)
      (chart.groups.map (·.value .register) ++ chart.groups.map (·.value .stack))
      (chart.bars style typeface) := by
  have values : chart.series.flatMap (·.values) =
      chart.groups.map (·.value .register) ++ chart.groups.map (·.value .stack) := by
    simp only [series, List.flatMap_cons, List.flatMap_nil, List.append_nil]
    rfl
  have someFilled : ∃ one ∈ chart.series, one.values ≠ [] :=
    ⟨_, List.mem_cons_self, by simpa using filled⟩
  have count : (chart.labels chart.range).columns.length = chart.groups.length :=
    List.length_map _
  have drawn := Plot.drawsBars_chart style typeface
    (Plot.panes style chart.settings.width chart.settings.height) chart.range
    (chart.labels chart.range) chart.settings.majorStep chart.settings.minorStep someFilled
  rw [values, count] at drawn
  exact drawn

end SpeedupChart

end

/-! ### Which values are numbers -/

namespace LevelResults

/-- Least measurements are numbers. -/
theorem isNaN_minimum_ofSamples (level : OptimizationLevel)
    (samples : PerVariant (Sample Float)) (variant : Variant) :
    ((ofSamples level samples).get variant).minimum.isNaN = false := by
  rw [get, ofSamples, PerVariant.get_ofFunction]
  exact Binary64.isNaN_least _

end LevelResults

/-- A speedup is no number if one of the two averages is none, or both are zero, or both are
infinite. -/
theorem Aggregate.isNaN_speedupOver_iff (aggregate baseline : Aggregate Float) :
    (aggregate.speedupOver baseline).isNaN = true ↔
      baseline.average.isNaN = true ∨ aggregate.average.isNaN = true ∨
        ((baseline.average == 0.0) = true ∧ (aggregate.average == 0.0) = true) ∨
        (baseline.average.isInf = true ∧ aggregate.average.isInf = true) := by
  have one : Binary64.isFinite (Scalar.ofInt 1 : Float) := by decide +kernel
  rw [speedupOver, Binary64.isNaN_sub_of_isFinite _ one, Binary64.isNaN_div_iff]

/-- The speedups shown for levels made from samples are those of union over bitmask decoding. -/
theorem SpeedupChart.map_value_of_samples {levels : List LevelResults}
    (sampled : ∀ results ∈ levels, ∃ level samples, results = LevelResults.ofSamples level samples)
    {groups : List SpeedupGroup}
    (grouped : List.Forall₂ (fun results own => group results = .ok own) levels groups)
    (encoding : Encoding) :
    groups.map (·.value encoding) = levels.map fun results =>
      (results.get ⟨.union, encoding⟩).speedupOver (results.get ⟨.bitmask, encoding⟩) := by
  induction grouped with
  | nil => rfl
  | @cons results own _ _ here _ inductionHypothesis =>
    obtain ⟨⟨level, samples, rfl⟩, sampledRest⟩ := List.forall_mem_cons.1 sampled
    have stored := stored_of_group here encoding
    rw [LevelResults.speedup_ofSamples] at stored
    rw [List.map_cons, List.map_cons, inductionHypothesis sampledRest, Option.some.inj stored]

/-- The bars of loaded levels under an accepted configuration, in every style and font. A drawing
that goes through, or stops only in its legend, has one bar for each value that its chart shows,
and one that stops before has no bar. Each bar stands on a point of the chart's range. It ends
at one exactly if its value is a number. Minima always are, averages may be none, and a speedup
is none exactly if one of its two averages is, or if both are zero or both are infinite. -/
theorem bar_ends_in_range_iff_number [DrawingLibrary] {configuration : Configuration}
    {workspace : Workspace} {levels : List LevelResults}
    (checked : configuration.check = .ok ())
    (loaded : (loadLevels configuration).result workspace = .ok levels) (style : Style)
    (typeface : Typeface) :
    (∀ encoding,
      let chart := ElapsedChart.ofLevels levels encoding configuration.elapsedChart
      let shown (decoding : Decoding) (statistic : Aggregate Float → Float) :=
        levels.map fun results => statistic (results.get ⟨decoding, encoding⟩)
      ∃ range sketch, chart.range = .ok range ∧ chart.sketch style typeface = .ok sketch ∧
        Plot.DrawsBars sketch (chart.lines style typeface range) (chart.legend style typeface)
          (chart.frame style range)
          (shown .bitmask Aggregate.average ++ shown .bitmask Aggregate.minimum ++
            shown .union Aggregate.average ++ shown .union Aggregate.minimum)
          (chart.bars style typeface range)) ∧
    (∃ chart sketch, SpeedupChart.ofLevels levels configuration.speedupChart = .ok chart ∧
      chart.settings = configuration.speedupChart ∧ chart.sketch style typeface = .ok sketch ∧
      let shown (encoding : Encoding) := levels.map fun results =>
        (results.get ⟨.union, encoding⟩).speedupOver (results.get ⟨.bitmask, encoding⟩)
      Plot.DrawsBars sketch (chart.lines style typeface) (chart.legend style typeface)
        (chart.frame style) (shown .register ++ shown .stack) (chart.bars style typeface)) ∧
    ∀ results ∈ levels,
      (∀ variant, (results.get variant).minimum.isNaN = false) ∧
      ∀ encoding,
        let union := results.get ⟨.union, encoding⟩
        let bitmask := results.get ⟨.bitmask, encoding⟩
        ((union.speedupOver bitmask).isNaN = true ↔
          bitmask.average.isNaN = true ∨ union.average.isNaN = true ∨
            ((bitmask.average == 0.0) = true ∧ (union.average == 0.0) = true) ∨
            (bitmask.average.isInf = true ∧ union.average.isInf = true)) := by
  obtain ⟨named, elapsedChecked, speedupChecked⟩ := configuration.check_eq_ok_iff.1 checked
  have filled := ne_nil_of_loadLevels loaded named
  have sampled := exists_samples_of_loadLevels loaded
  refine ⟨?_, ?_, ?_⟩
  · intro encoding chart shown
    obtain ⟨range, ranged, sketched⟩ :=
      ElapsedChart.exists_sketch_ofLevels filled encoding elapsedChecked style typeface
    exact ⟨range, _, ranged, sketched,
      ElapsedChart.drawsBars style typeface range filled encoding configuration.elapsedChart⟩
  · obtain ⟨chart, made, grouped⟩ := SpeedupChart.exists_ofLevels (compared_of_loadLevels loaded)
      configuration.speedupChart
    obtain ⟨-, settled⟩ := (SpeedupChart.ofLevels_eq_ok_iff _ _ _).1 made
    have categories : chart.groups ≠ [] := by
      intro empty
      rw [empty] at grouped
      exact filled (List.forall₂_nil_right_iff.1 grouped)
    have drawn := SpeedupChart.drawsBars style typeface categories
    rw [SpeedupChart.map_value_of_samples sampled grouped,
      SpeedupChart.map_value_of_samples sampled grouped] at drawn
    exact ⟨chart, _, made, settled,
      SpeedupChart.sketch_ofLevels filled speedupChecked made style typeface, drawn⟩
  · intro results member
    obtain ⟨level, samples, rfl⟩ := sampled results member
    exact ⟨LevelResults.isNaN_minimum_ofSamples level samples,
      fun encoding => Aggregate.isNaN_speedupOver_iff _ _⟩

/-- What was never longer than no time has no speedup: both averages with stack encoding are
zero, and their speedup is no number. -/
theorem bar_ends_in_range_iff_number_zero :
    let configuration : Configuration := { levels := [.O0] }
    let workspace := Workspace.withStack "runs.csv" "run,elapsed,deviation\n1,0,0\n"
    ∃ levels, (loadLevels configuration).result workspace = .ok levels ∧ levels ≠ [] ∧
      ∀ results ∈ levels, ((results.get ⟨.union, .stack⟩).speedupOver
        (results.get ⟨.bitmask, .stack⟩)).isNaN = true := by
  intro configuration workspace
  obtain ⟨_, checked⟩ : ∃ done, configuration.check = .ok done :=
    exists_of_isOk (by decide +kernel)
  obtain ⟨levels, loaded, zeros⟩ : ∃ levels,
      (loadLevels configuration).result workspace = .ok levels ∧
        (levels.all fun results => (results.get ⟨.bitmask, .stack⟩).average == 0.0 &&
          (results.get ⟨.union, .stack⟩).average == 0.0) = true :=
    exists_of_any (by decide +kernel)
  obtain ⟨-, -, every⟩ := bar_ends_in_range_iff_number checked loaded .plain none
  refine ⟨levels, loaded, ne_nil_of_loadLevels loaded (by decide), ?_⟩
  intro results member
  have both := List.all_eq_true.1 zeros results member
  rw [Bool.and_eq_true] at both
  exact ((every results member).2 .stack).2 (.inr (.inr (.inl both)))

/-- A workspace with the results of one level. Of one variant they are given, all others ran once
for five milliseconds. -/
def Workspace.withBitmaskRegister (results : String) : Workspace where
  tree :=
    let below (variant : Variant) : List (Location × Entry) :=
      let directory := ["data", "GCC", "O0", variant.directoryName]
      let text := if variant = ⟨.bitmask, .register⟩ then results
        else "run,elapsed,deviation\n1,5,0\n"
      [(directory, .directory),
       (directory ++ ["runs.csv"], .file (.plain (Text.encode text.toList)))]
    let entries : List (Location × Entry) :=
      [(["data"], .directory), (["data", "GCC"], .directory),
       (["data", "GCC", "O0"], .directory)] ++ Variant.all.flatMap below
    entries.foldl (fun tree (location, entry) => tree.put location entry) .empty
  working := []
  font := none
  events := []

/-- Accepted configurations and loaded levels do not rule out that a bar ends outside the range
of its chart: if one of two measurements is no number, the average is none either. -/
theorem not_bars_always_in_range :
    ¬ ∀ (configuration : Configuration) (workspace : Workspace) (levels : List LevelResults)
        (style : Style) (typeface : Typeface),
      configuration.check = .ok () → (loadLevels configuration).result workspace = .ok levels →
      (∀ encoding range,
        let chart := ElapsedChart.ofLevels levels encoding configuration.elapsedChart
        chart.range = .ok range →
        ∀ bar ∈ chart.bars style typeface range,
          range.Contains bar.base ∧ range.Contains bar.top) ∧
      ∀ chart, SpeedupChart.ofLevels levels configuration.speedupChart = .ok chart →
        let range : Range := ⟨configuration.speedupChart.low, configuration.speedupChart.high⟩
        ∀ bar ∈ chart.bars style typeface,
          range.Contains bar.base ∧ range.Contains bar.top := by
  intro always
  let configuration : Configuration := { levels := [.O0], elapsedChart := { margin := 0.0 } }
  let workspace := Workspace.withBitmaskRegister "run,elapsed,deviation\n1,nan,0\n2,5,0\n"
  obtain ⟨_, checked⟩ : ∃ done, configuration.check = .ok done :=
    exists_of_isOk (by decide +kernel)
  obtain ⟨levels, loaded, outside⟩ : ∃ levels,
      (loadLevels configuration).result workspace = .ok levels ∧
        (let chart := ElapsedChart.ofLevels levels .register configuration.elapsedChart
         chart.range.toOption.any fun range =>
          (chart.bars .plain none range).any fun bar => !decide (range.Contains bar.top)) = true :=
    exists_of_any (by decide +kernel)
  obtain ⟨range, ranged, outside⟩ := exists_of_any outside
  obtain ⟨bar, member, beyond⟩ := List.any_eq_true.1 outside
  have inside := ((always configuration workspace levels .plain none checked loaded).1 .register
    range ranged bar member).2
  simp [inside] at beyond

end BenchFigures
