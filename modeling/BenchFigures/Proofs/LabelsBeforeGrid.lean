import BenchFigures.Chart.BlankLibrary
import BenchFigures.Proofs.LabelCounts
import BenchFigures.Proofs.Refusal

/-!
# Labels come before the grid

A labelled chart begins with its axes, and asks for labels before the grid is looked at. If the
labels are drawn and the range has too many gridlines, the drawing ends with that, but the axes
are drawn by then, with as many labels as steps too small for a grid ask for, and they are in the
picture that is saved. If the labels are not drawn, the drawing ends with them.
-/

namespace BenchFigures

namespace Sketch

section Refused

variable {frame : Frame} {major : Float}
  (tooMany : ∀ ends, Grid.bounds frame.vertical.low frame.vertical.high major ≠ .ok ends)

include tooMany

/-- Gridlines that are refused stop the drawing without a mark. -/
theorem gridlines_of_refused (color : Color) :
    (gridlines frame major color).marks = [] ∧ (gridlines frame major color).failure ≠ none := by
  rw [gridlines, Grid.lines]
  cases bounded : Grid.bounds frame.vertical.low frame.vertical.high major with
  | ok ends => exact absurd bounded (tooMany ends)
  | error fault => exact ⟨rfl, Option.some_ne_none _⟩

/-- If the major gridlines are refused, a grid stops the drawing. -/
theorem failure_grid_of_refused (minor : Float) : (grid frame major minor).failure ≠ none := by
  rw [grid, failure_andThen, Ne, Option.or_eq_none_iff, not_and]
  intro _
  exact (gridlines_of_refused tooMany majorGridColor).2

/-- If the major gridlines are refused, a grid has at most the minor ones. -/
theorem marks_grid_of_refused (minor : Float) :
    (grid frame major minor).marks = (gridlines frame minor minorGridColor).marks := by
  rw [grid, marks_andThen, (gridlines_of_refused tooMany majorGridColor).1]
  cases (gridlines frame minor minorGridColor).failure <;> simp

end Refused

/-- If the major gridlines of accepted steps are refused, a chart stops for too many gridlines. -/
theorem gridsRefusal?_of_tooMany {majorName minorName : String} {major minor : Float}
    (majorAccepted : Configuration.checkStep majorName major = .ok ())
    (minorAccepted : Configuration.checkStep minorName minor = .ok ()) {range : Range}
    (tooMany : ∀ ends, Grid.bounds range.low range.high major ≠ .ok ends) :
    ∃ step,
      gridsRefusal? range major minor = some (.tooManyGridlines range.low range.high step) := by
  cases refused : gridsRefusal? range major minor with
  | none =>
    rw [gridsRefusal?, Option.or_eq_none_iff, gridRefusal?_eq_none_iff,
      gridRefusal?_eq_none_iff] at refused
    obtain ⟨-, ends, bounded⟩ := refused
    exact absurd bounded (tooMany ends)
  | some cause =>
    obtain ⟨step, rfl⟩ := gridsRefusal?_of_checkStep majorAccepted minorAccepted refused
    exact ⟨step, rfl⟩

end Sketch

/-- Parts drawn in order go through exactly if each of them does. -/
theorem Sketch.failure_inOrder_eq_none_iff {parts : List Sketch} :
    (inOrder parts).failure = none ↔ ∀ part ∈ parts, part.failure = none := by
  rw [failure_inOrder, List.findSome?_eq_none_iff]

namespace Plot

/-- The line of the vertical axis of a labelled chart. -/
def axisLine (panes : Panes) : Mark :=
  { box := Box.verticalLine (panes.area.left - 1) panes.area.top (panes.area.bottom - 1)
    color := .black }

section

variable [DrawingLibrary]

/-- A side of the axes begins with its line if there is room for it. -/
theorem line_mem_side {strip : Box} (room : strip.isEmpty = false) (typeface : Typeface)
    (line : Box) (labels : List AxisLabel) (tick : Int → List Box) (description : Option String) :
    { box := line, color := .black } ∈
      (side typeface strip line labels tick description).marks := by
  simp [side, room, Sketch.inOrder, Sketch.boxes, Sketch.ofMarks, Sketch.andThen]

/-- Axes that are drawn have this line where there is room for it, whatever the labels are. -/
theorem axisLine_mem {typeface : Typeface} {panes : Panes} {frame : Frame} {labels : Labels}
    (drawn : (labelledAxes typeface panes frame labels).failure = none)
    (room : panes.left.isEmpty = false) :
    axisLine panes ∈ (labelledAxes typeface panes frame labels).marks := by
  rw [labelledAxes] at drawn ⊢
  split at drawn
  · rw [Sketch.marks_inOrder (.inl (Sketch.failure_inOrder_eq_none_iff.1 drawn))]
    refine List.mem_flatMap.2 ⟨_, List.mem_cons_of_mem _ List.mem_cons_self, ?_⟩
    exact line_mem_side room _ _ _ _ _
  · simp [Sketch.stopped] at drawn

/-- Labels are drawn if the library finds their points and writes every text. -/
theorem failure_labelledAxes_eq_none {typeface : Typeface} (panes : Panes) {frame : Frame}
    {labels : Labels} (writes : ∀ account, ¬ Reports typeface account)
    (columns : DrawingLibrary.points? frame.horizontal labels.columns.length ≠ none)
    (rows : DrawingLibrary.points? frame.vertical labels.rowCount ≠ none) :
    (labelledAxes typeface panes frame labels).failure = none := by
  cases stopped : (labelledAxes typeface panes frame labels).failure with
  | none => rfl
  | some cause =>
    cases labelCause_of_failure stopped with
    | lettering account reported => exact absurd reported (writes account)
    | endless unfound => exact absurd unfound (not_or.2 ⟨columns, rows⟩)

/-- A labelled chart: what is drawn and saved of it with a font, and how many labels its vertical
axis is asked for. -/
structure LaysOutLabels (render : Path → Action Unit) (typeface : Typeface) (sketch : Sketch)
    (width height : Nat) (panes : Panes) (frame : Frame) (labels : Labels) (major minor : Float) :
    Prop where
  /-- The axes are drawn first, whatever the step. -/
  first : (labelledAxes typeface panes frame labels).marks <+: sketch.marks
  /-- Axes that are not drawn to their end end the drawing. -/
  unlabelled : ∀ cause, (labelledAxes typeface panes frame labels).failure = some cause →
    sketch = labelledAxes typeface panes frame labels
  /-- Too many major gridlines end the drawing, but then the axes are drawn and saved. -/
  refused : (labelledAxes typeface panes frame labels).failure = none →
    (∀ ends, Grid.bounds frame.vertical.low frame.vertical.high major ≠ .ok ends) →
    sketch.marks = (labelledAxes typeface panes frame labels).marks ++
        (Sketch.gridlines frame minor Sketch.minorGridColor).marks ∧
      ∃ step, ∀ path before, before.typeface = typeface → (render path).run before =
        (.error (Cause.tooManyGridlines frame.vertical.low frame.vertical.high step).failure,
          (sketch.picture width height).written path before)
  /-- The count starts over from zero exactly if there are too many steps for 64 bits. -/
  overflows : labels.rowCount = 0 ↔
    18446744073709551616.0 ≤ (frame.vertical.high - frame.vertical.low) / major
  /-- A drawn grid keeps the count small, if its numbers are and the range has a finite height. -/
  few : ∀ first last, Grid.bounds frame.vertical.low frame.vertical.high major =
      .ok (first, last) → |first| < 2 ^ 53 → |last| < 2 ^ 53 →
    Binary64.isFinite (frame.vertical.high - frame.vertical.low) →
      1 ≤ labels.rowCount ∧ labels.rowCount ≤ 1002

section Chart

variable {style : Style} {typeface : Typeface} {panes : Panes} {vertical : Range}
  {labels : Labels} {major minor : Float} {series : List Series}

/-- A chart that stops under its bars has the marks that are under them, and fails alike. -/
theorem chart_of_stopped {cause : Cause} :
    let frame : Frame := ⟨panes.area, categories labels.columns.length, vertical⟩
    (lines style typeface panes frame labels major minor).failure = some cause →
      chart style typeface panes vertical labels major minor series =
        lines style typeface panes frame labels major minor := by
  intro frame stopped
  have whole : chart style typeface panes vertical labels major minor series =
      (lines style typeface panes frame labels major minor).andThen
        (Sketch.inOrder (series.map (·.sketch frame) ++
          [legend style typeface panes.area series])) := rfl
  rw [whole, Sketch.andThen, stopped]

variable (labelled : style.labelled = true)

include labelled

/-- Under the bars of a labelled chart, its axes are drawn before its grid. -/
theorem lines_of_labelled (frame : Frame) :
    lines style typeface panes frame labels major minor =
      (labelledAxes typeface panes frame labels).andThen (Sketch.grid frame major minor) := by
  rw [lines, if_pos labelled]

/-- A labelled chart is drawn from its axes on. -/
theorem labelledAxes_prefix :
    let frame : Frame := ⟨panes.area, categories labels.columns.length, vertical⟩
    (labelledAxes typeface panes frame labels).marks <+:
      (chart style typeface panes vertical labels major minor series).marks := by
  intro frame
  have whole : chart style typeface panes vertical labels major minor series =
      ((labelledAxes typeface panes frame labels).andThen
        (Sketch.grid frame major minor)).andThen
          (Sketch.inOrder (series.map (·.sketch frame) ++
            [legend style typeface panes.area series])) :=
    congrArg (Sketch.andThen · _) (lines_of_labelled labelled frame)
  rw [whole, Sketch.marks_andThen, Sketch.marks_andThen, List.append_assoc]
  exact List.prefix_append _ _

/-- A labelled chart whose axes stop is no more than these. -/
theorem chart_of_unlabelled {cause : Cause} :
    let frame : Frame := ⟨panes.area, categories labels.columns.length, vertical⟩
    (labelledAxes typeface panes frame labels).failure = some cause →
      chart style typeface panes vertical labels major minor series =
        labelledAxes typeface panes frame labels := by
  intro frame stopped
  have under : lines style typeface panes frame labels major minor =
      labelledAxes typeface panes frame labels := by
    rw [lines_of_labelled labelled, Sketch.andThen, stopped]
  rw [chart_of_stopped (by rw [under, stopped]), under]

/-- A labelled chart with too many major gridlines has its axes and at most the minor ones. -/
theorem marks_of_refused :
    let frame : Frame := ⟨panes.area, categories labels.columns.length, vertical⟩
    (labelledAxes typeface panes frame labels).failure = none →
    (∀ ends, Grid.bounds frame.vertical.low frame.vertical.high major ≠ .ok ends) →
      (chart style typeface panes vertical labels major minor series).marks =
        (labelledAxes typeface panes frame labels).marks ++
          (Sketch.gridlines frame minor Sketch.minorGridColor).marks := by
  intro frame drawn tooMany
  obtain ⟨cause, stopped⟩ :=
    Option.ne_none_iff_exists'.1 (Sketch.failure_grid_of_refused tooMany minor)
  have under : (lines style typeface panes frame labels major minor).failure = some cause := by
    rw [lines_of_labelled labelled, Sketch.failure_andThen, drawn, Option.none_or, stopped]
  rw [chart_of_stopped under, lines_of_labelled labelled, Sketch.marks_andThen, drawn]
  simp only
  rw [Sketch.marks_grid_of_refused tooMany]

end Chart

/-- A labelled chart with accepted steps lays out its labels before its grid, if it is saved as
far as it is drawn. -/
theorem laysOutLabels {style : Style} (labelled : style.labelled = true) {typeface : Typeface}
    {panes : Panes} {frame : Frame} {labels : Labels} {major minor : Float} {series : List Series}
    {rounding : Rat → Int} {render : Path → Action Unit} {sketch : Sketch} {width height : Nat}
    (framed : frame = ⟨panes.area, categories labels.columns.length, frame.vertical⟩)
    (drawn : sketch = chart style typeface panes frame.vertical labels major minor series)
    (counts : Binary64.Counts rounding)
    (counted : labels.rowCount = labelCount rounding frame.vertical major)
    {majorName minorName : String}
    (majorAccepted : Configuration.checkStep majorName major = .ok ())
    (minorAccepted : Configuration.checkStep minorName minor = .ok ())
    (saves : ∀ cause, sketch.failure = some cause → cause ≠ .endlessSearch → ∀ path before,
      before.typeface = typeface → (render path).run before =
        (.error cause.failure, (sketch.picture width height).written path before)) :
    LaysOutLabels render typeface sketch width height panes frame labels major minor where
  first := by
    rw [drawn, framed]
    exact labelledAxes_prefix labelled
  unlabelled cause stopped := by
    rw [framed] at stopped ⊢
    rw [drawn]
    exact chart_of_unlabelled labelled stopped
  refused axes tooMany := by
    refine ⟨?_, ?_⟩
    · rw [framed] at axes ⊢
      rw [drawn]
      exact marks_of_refused labelled axes tooMany
    · obtain ⟨step, refused⟩ :=
        Sketch.gridsRefusal?_of_tooMany majorAccepted minorAccepted tooMany
      refine ⟨step, saves _ ?_ (by simp)⟩
      rw [framed] at axes
      have under := failure_lines style typeface panes
        ⟨panes.area, categories labels.columns.length, frame.vertical⟩ labels major minor
      rw [labelFailure?, if_pos labelled, axes, Option.none_or, refused] at under
      rw [drawn, chart_of_stopped under, under]
  overflows := by
    rw [counted]
    exact labelCount_eq_zero_iff counts frame.vertical major
  few first last bounded low high finite := by
    rw [counted]
    exact labelCount_le counts bounded low high finite

end

end Plot

/-! ### The two charts -/

section

variable [DrawingLibrary]

/-- A labelled chart of elapsed times is drawn from its axes on. -/
theorem ElapsedChart.labelledAxes_prefix {style : Style} (labelled : style.labelled = true)
    (chart : ElapsedChart) (typeface : Typeface) (range : Range) :
    (Plot.labelledAxes typeface (Plot.panes style chart.settings.width chart.settings.height)
      (chart.frame style range) (chart.labels range)).marks <+:
        (chart.drawing style typeface range).marks := by
  have count : (chart.labels range).columns.length = chart.groups.length := List.length_map _
  rw [frame, ← count]
  exact Plot.labelledAxes_prefix labelled

/-- A chart of elapsed times that stops in its drawing fails with that cause, and what was drawn
until then is written. -/
theorem ElapsedChart.run_render_of_stopped {chart : ElapsedChart} {style : Style} {range : Range}
    {before : Workspace} {cause : Cause} (checked : chart.settings.check = .ok ())
    (ranged : chart.range = .ok range)
    (stopped : (chart.drawing style before.typeface range).failure = some cause)
    (ends : cause ≠ .endlessSearch) (path : Path) :
    (chart.render path style).run before =
      (.error cause.failure, ((chart.drawing style before.typeface range).picture
        chart.settings.width chart.settings.height).written path before) := by
  let drawing := chart.drawing style before.typeface range
  have begun := (chart.sketch_eq_ok_iff style before.typeface _).2 ⟨checked, range, ranged, rfl⟩
  have run := drawing.run_save chart.settings.width chart.settings.height path before
  simp only [drawing, stopped] at run
  rw [run_render, renderWith, begun]
  refine run.trans ?_
  rw [Sketch.afterSaving_eq_written (by rw [stopped]; simpa using ends)]

/-- A chart of speedups that stops in its drawing fails with that cause, and what was drawn until
then is written. -/
theorem SpeedupChart.run_render_of_stopped {chart : SpeedupChart} {style : Style}
    {before : Workspace} {cause : Cause} (checked : chart.settings.check = .ok ())
    (filled : chart.groups ≠ [])
    (stopped : (chart.drawing style before.typeface).failure = some cause)
    (ends : cause ≠ .endlessSearch) (path : Path) :
    (chart.render path style).run before =
      (.error cause.failure, ((chart.drawing style before.typeface).picture chart.settings.width
        chart.settings.height).written path before) := by
  let drawing := chart.drawing style before.typeface
  have begun := (chart.sketch_eq_ok_iff style before.typeface _).2 ⟨⟨checked, filled⟩, rfl⟩
  have run := drawing.run_save chart.settings.width chart.settings.height path before
  simp only [drawing, stopped] at run
  rw [run_render, renderWith, begun]
  refine run.trans ?_
  rw [Sketch.afterSaving_eq_written (by rw [stopped]; simpa using ends)]

/-- Charts with labels lay them out before their grid is looked at. Labels that are not drawn end
the drawing. If they are drawn, too many major gridlines end it, but by then the axes are drawn,
and they are saved. The count of labels is small if the grid is drawn, its numbers have at most 53
bits and the range has a finite height. Nothing else limits it, and it starts over from zero if
there are too many steps for 64 bits. -/
theorem labels_before_grid (elapsed : ElapsedChart) (speedups : SpeedupChart) (style : Style)
    (labelled : style.labelled = true) (typeface : Typeface) :
    (∀ range, elapsed.settings.check = .ok () → elapsed.range = .ok range →
      let settings := elapsed.settings
      let panes := Plot.panes style settings.width settings.height
      let frame : Frame := ⟨panes.area, Plot.categories elapsed.groups.length, range⟩
      let labels := elapsed.labels range
      labels.rowCount = ElapsedChart.labelCount range settings.majorStep ∧
      Plot.LaysOutLabels (elapsed.render · style) typeface (elapsed.drawing style typeface range)
        settings.width settings.height panes frame labels settings.majorStep
        settings.minorStep) ∧
    (speedups.settings.check = .ok () → speedups.groups ≠ [] →
      let settings := speedups.settings
      let panes := Plot.panes style settings.width settings.height
      let range : Range := ⟨settings.low, settings.high⟩
      let frame : Frame := ⟨panes.area, Plot.categories speedups.groups.length, range⟩
      let labels := speedups.labels range
      labels.rowCount = SpeedupChart.labelCount range settings.majorStep ∧
      Plot.LaysOutLabels (speedups.render · style) typeface (speedups.drawing style typeface)
        settings.width settings.height panes frame labels settings.majorStep
        settings.minorStep) := by
  constructor
  · intro range checked ranged settings panes frame labels
    obtain ⟨-, -, majorAccepted, minorAccepted⟩ := (ElapsedSettings.check_eq_ok_iff _).1 checked
    have columns : labels.columns.length = elapsed.groups.length := List.length_map _
    refine ⟨rfl, Plot.laysOutLabels labelled (by rw [columns]) rfl Binary64.counts_integerPart
      (Plot.labelCount_integerPart _ _).symm majorAccepted minorAccepted ?_⟩
    rintro cause stopped ends path before rfl
    exact ElapsedChart.run_render_of_stopped checked ranged stopped ends path
  · intro checked filled settings panes range frame labels
    obtain ⟨-, -, majorAccepted, minorAccepted⟩ := (SpeedupSettings.check_eq_ok_iff _).1 checked
    have columns : labels.columns.length = speedups.groups.length := List.length_map _
    refine ⟨rfl, Plot.laysOutLabels labelled (by rw [columns]) rfl Binary64.counts_nearest
      (Plot.labelCount_nearest _ _).symm majorAccepted minorAccepted ?_⟩
    rintro cause stopped ends path before rfl
    exact SpeedupChart.run_render_of_stopped checked filled stopped ends path

end

/-- A chart of one run, with a major step that is accepted but too small for its range. -/
def ElapsedChart.overLabelled : ElapsedChart :=
  { ElapsedChart.tooFine with settings := { width := 160, height := 120, majorStep := 0.05 } }

/-- The settings of this chart are accepted, and its range has too many major gridlines. -/
theorem ElapsedChart.overLabelled_tooMany :
    ElapsedChart.overLabelled.settings.check = .ok () ∧
      ∃ range, ElapsedChart.overLabelled.range = .ok range ∧
        labelCount range ElapsedChart.overLabelled.settings.majorStep = 2001 ∧
        ∀ ends, Grid.bounds range.low range.high
          ElapsedChart.overLabelled.settings.majorStep ≠ .ok ends := by
  obtain ⟨_, checked⟩ : ∃ done, ElapsedChart.overLabelled.settings.check = .ok done :=
    exists_of_isOk (by decide +kernel)
  obtain ⟨range, ranged, counted⟩ : ∃ range, ElapsedChart.overLabelled.range = .ok range ∧
      (decide (labelCount range ElapsedChart.overLabelled.settings.majorStep = 2001) &&
        !(Grid.bounds range.low range.high
          ElapsedChart.overLabelled.settings.majorStep).isOk) = true :=
    exists_of_any (by decide +kernel)
  obtain ⟨count, refused⟩ := Bool.and_eq_true_iff.1 counted
  refine ⟨checked, range, ranged, of_decide_eq_true count, ?_⟩
  intro ends bounded
  rw [bounded] at refused
  exact Bool.false_ne_true refused

namespace DrawingLibrary

/-- A library that labels evenly spaced points, from end to end or, if there is only one, in the
middle. Its texts leave no pixels. -/
@[reducible] def evenlySpaced : DrawingLibrary :=
  { blank with
    points? := fun range count => some <|
      match count with
      | 0 => []
      | 1 => [(range.low + range.high) / 2.0]
      | more + 2 => (List.range (more + 2)).map fun index =>
        range.low + Float.ofNat index * ((range.high - range.low) / Float.ofNat (more + 1)) }

/-- With any font, this library draws all labels. -/
theorem failure_labelledAxes_evenlySpaced (font : List UInt8) (panes : Panes) (frame : Frame)
    (labels : Plot.Labels) :
    (@Plot.labelledAxes evenlySpaced (some font) panes frame labels).failure = none := by
  refine @Plot.failure_labelledAxes_eq_none evenlySpaced _ panes _ _ ?_ (Option.some_ne_none _)
    (Option.some_ne_none _)
  rintro account (⟨_, faulty⟩ | ⟨_, faulty⟩)
  · exact absurd faulty.symm (Option.some_ne_none _)
  · exact absurd faulty.symm (Option.some_ne_none _)

end DrawingLibrary

/-- This chart is refused for its gridlines, but with 2001 labels asked for and its axis drawn. A
chart of speedups with the default settings has a count that is small. -/
theorem labels_before_grid_overLabelled :
    let library : DrawingLibrary := .evenlySpaced
    let chart := ElapsedChart.overLabelled
    let panes := Plot.panes ⟨true⟩ 160 120
    let font : Typeface := some [0, 1, 0, 0]
    let speedups : SpeedupSettings := {}
    (∃ range, chart.range = .ok range ∧ (chart.labels range).rowCount = 2001 ∧
      (library.points? range 2001).map List.length = some 2001 ∧
      Plot.axisLine panes ∈ (chart.drawing ⟨true⟩ font range).marks ∧
      ∃ step, ∀ path before, before.typeface = font → (chart.render path ⟨true⟩).result before =
        .error (Cause.tooManyGridlines range.low range.high step).failure) ∧
    SpeedupChart.labelCount ⟨speedups.low, speedups.high⟩ speedups.majorStep ≤ 1002 := by
  intro library chart panes font speedups
  obtain ⟨checked, range, ranged, count, tooMany⟩ := ElapsedChart.overLabelled_tooMany
  obtain ⟨⟨first, last⟩, bounded, small⟩ : ∃ ends,
      Grid.bounds speedups.low speedups.high speedups.majorStep = .ok ends ∧
        (decide (|ends.1| < 2 ^ 53) && decide (|ends.2| < 2 ^ 53)) = true :=
    exists_of_any (by decide +kernel)
  obtain ⟨low, high⟩ := Bool.and_eq_true_iff.1 small
  obtain ⟨_, checked'⟩ : ∃ done, speedups.check = .ok done :=
    exists_of_isOk (by decide +kernel)
  obtain ⟨elapsed, others⟩ :=
    labels_before_grid chart ⟨[⟨"-O0", 0.0, 0.0⟩], speedups⟩ ⟨true⟩ rfl font
  constructor
  · obtain ⟨-, first, -, stops, -, -⟩ := elapsed range checked ranged
    have room : panes.left.isEmpty = false := by decide +kernel
    have axes := DrawingLibrary.failure_labelledAxes_evenlySpaced [0, 1, 0, 0] panes
      ⟨panes.area, Plot.categories chart.groups.length, range⟩ (chart.labels range)
    obtain ⟨-, step, failed⟩ := stops axes tooMany
    have spaced : (library.points? range 2001).map List.length = some 2001 :=
      congrArg some ((List.length_map _).trans List.length_range)
    exact ⟨range, ranged, count, spaced, first.subset (Plot.axisLine_mem axes room), step,
      fun path before registered => congrArg Prod.fst (failed path before registered)⟩
  · obtain ⟨counted, laysOut⟩ := others checked' (List.cons_ne_nil _ _)
    rw [← counted]
    exact (laysOut.few first last bounded (of_decide_eq_true low) (of_decide_eq_true high)
      (by decide +kernel)).2

/-- Labels are laid out before a step is refused for being too fine: more than 1002 may be asked
for, the count may start over from zero although the grid is drawn, and a refused chart may have
its axis. -/
theorem not_refused_before_labels :
    (¬ ∀ (chart : ElapsedChart) (range : Range), chart.settings.check = .ok () →
      chart.range = .ok range →
      ElapsedChart.labelCount range chart.settings.majorStep ≤ 1002) ∧
    (¬ ∀ settings : SpeedupSettings, settings.check = .ok () →
      (∃ ends, Grid.bounds settings.low settings.high settings.majorStep = .ok ends) →
      SpeedupChart.labelCount ⟨settings.low, settings.high⟩ settings.majorStep ≠ 0) ∧
    ¬ ∀ (_ : DrawingLibrary) (chart : ElapsedChart) (style : Style) (typeface : Typeface)
        (range : Range), style.labelled = true → chart.settings.check = .ok () →
      chart.range = .ok range →
      (∀ ends, Grid.bounds range.low range.high chart.settings.majorStep ≠ .ok ends) →
      Plot.axisLine (Plot.panes style chart.settings.width chart.settings.height) ∉
        (chart.drawing style typeface range).marks := by
  obtain ⟨checked, range, ranged, count, tooMany⟩ := ElapsedChart.overLabelled_tooMany
  refine ⟨?_, ?_, ?_⟩
  · intro few
    have small := few _ range checked ranged
    rw [count] at small
    exact absurd small (by decide)
  · intro counted
    let settings : SpeedupSettings :=
      { low := -1.7e308, high := 1.7e308, majorStep := 1e308, minorStep := 1e308 }
    obtain ⟨_, checked'⟩ : ∃ done, settings.check = .ok done :=
      exists_of_isOk (by decide +kernel)
    exact counted settings checked' (exists_of_isOk (by decide +kernel)) (by decide +kernel)
  · intro absent
    let library : DrawingLibrary := .evenlySpaced
    let chart := ElapsedChart.overLabelled
    let panes := Plot.panes ⟨true⟩ chart.settings.width chart.settings.height
    let font : List UInt8 := [0, 1, 0, 0]
    have axes := DrawingLibrary.failure_labelledAxes_evenlySpaced font panes
      (chart.frame ⟨true⟩ range) (chart.labels range)
    have room : panes.left.isEmpty = false := by decide +kernel
    have first := chart.labelledAxes_prefix rfl (some font) range
    have missing := absent library chart ⟨true⟩ (some font) range rfl checked ranged tooMany
    exact missing (first.subset (Plot.axisLine_mem axes room))

end BenchFigures
