import BenchFigures.Chart.Elapsed
import BenchFigures.Chart.Speedup

/-!
# Why a drawing stops

Parts drawn in order stop with the first part that stops. So a chart stops for its
labels, or else for its grid, the minor one first, or else for a bar, and any bar is as
good as the first one to tell: whether a bar can be drawn depends on the range alone. A
chart that gets to its legend may still stop there. Labels and the legend stop it only
as the library does.
-/

namespace BenchFigures

namespace Sketch

/-- A drawing of two parts stops as the first part does, or else as the second does. -/
theorem failure_andThen (first second : Sketch) :
    (first.andThen second).failure = first.failure.or second.failure := by
  rw [andThen]
  cases stopped : first.failure with
  | none => simp
  | some cause => simp [stopped]

/-- Parts drawn in order stop with the first one that stops. -/
theorem failure_inOrder (parts : List Sketch) :
    (inOrder parts).failure = parts.findSome? failure := by
  induction parts with
  | nil => rfl
  | cons first rest inductionHypothesis =>
    have whole : inOrder (first :: rest) = first.andThen (inOrder rest) := rfl
    rw [whole, failure_andThen, inductionHypothesis, List.findSome?_cons]
    cases first.failure <;> rfl

/-- What stops a drawing in parts stops one of the parts. -/
theorem exists_part_of_failure {parts : List Sketch} {cause : Cause}
    (stopped : (inOrder parts).failure = some cause) :
    ∃ part ∈ parts, part.failure = some cause := by
  rw [failure_inOrder] at stopped
  exact List.exists_of_findSome?_eq_some stopped

/-- What the library draws stops a drawing with its account of the fault. -/
theorem failure_ofLibrary {drawn : Drawn} {cause : Cause}
    (stopped : (ofLibrary drawn).failure = some cause) :
    ∃ account, drawn.fault = some account ∧ cause = .drawing (.lettering account) := by
  obtain ⟨account, faulty, rfl⟩ := Option.map_eq_some_iff.1 stopped
  exact ⟨account, faulty, rfl⟩

/-- Why the gridlines of a step are refused in a range, if they are. -/
def gridRefusal? (range : Range) (step : Float) : Option Cause :=
  match Grid.bounds range.low range.high step with
  | .ok _ => none
  | .error fault => some (fault.cause range.low range.high step)

/-- The gridlines of a step stop a drawing exactly if they are refused. -/
theorem failure_gridlines (frame : Frame) (step : Float) (color : Color) :
    (gridlines frame step color).failure = gridRefusal? frame.vertical step := by
  simp only [gridlines, gridRefusal?, Grid.lines]
  cases Grid.bounds frame.vertical.low frame.vertical.high step <;> rfl

/-- Why the grids of a range stop a drawing, if they do: the minor one is drawn first. -/
def gridsRefusal? (range : Range) (major minor : Float) : Option Cause :=
  (gridRefusal? range minor).or (gridRefusal? range major)

/-- The grids stop a drawing exactly if one of them is refused. -/
theorem failure_grid (frame : Frame) (major minor : Float) :
    (grid frame major minor).failure = gridsRefusal? frame.vertical major minor := by
  rw [grid, failure_andThen, failure_gridlines, failure_gridlines, gridsRefusal?]

/-- A bar stops a drawing exactly if the range has no points. -/
theorem failure_bar (frame : Frame) (left value : Float) (color : Color) :
    (bar frame left value color).failure =
      if frame.vertical.low ≤ frame.vertical.high then none else some .emptyRange := by
  by_cases ordered : frame.vertical.low ≤ frame.vertical.high
  · have holds : Scalar.le frame.vertical.low frame.vertical.high = true := decide_eq_true ordered
    simp [bar, Bar.clipped?, Bar.held?, holds, ordered, boxes, ofMarks]
  · have fails : Scalar.le frame.vertical.low frame.vertical.high = false := decide_eq_false ordered
    simp [bar, Bar.clipped?, Bar.held?, fails, ordered, stopped]

end Sketch

namespace Plot

/-- A series stops a drawing exactly if it has a bar and the range has no points. -/
theorem failure_series (series : Series) (frame : Frame) :
    (series.sketch frame).failure =
      if series.values = [] ∨ frame.vertical.low ≤ frame.vertical.high then none
      else some .emptyRange := by
  rw [Series.sketch, Sketch.failure_inOrder]
  by_cases ordered : frame.vertical.low ≤ frame.vertical.high
  · rw [if_pos (.inr ordered), List.findSome?_eq_none_iff]
    intro part member
    obtain ⟨⟨value, category⟩, -, rfl⟩ := List.mem_map.1 member
    exact (Sketch.failure_bar _ _ _ _).trans (if_pos ordered)
  · cases listed : series.values with
    | nil => simp
    | cons value rest =>
      have first := Sketch.failure_bar frame (Float.ofNat 0 + series.offset) value series.color
      rw [if_neg ordered] at first
      simp [List.zipIdx_cons, first, ordered]

/-- The bars of a chart stop its drawing exactly if there are any and the range has no
points. -/
theorem failure_bars {series : List Series} (filled : ∃ one ∈ series, one.values ≠ [])
    (frame : Frame) :
    (series.map (·.sketch frame)).findSome? Sketch.failure =
      if frame.vertical.low ≤ frame.vertical.high then none else some .emptyRange := by
  rw [List.findSome?_map]
  by_cases ordered : frame.vertical.low ≤ frame.vertical.high
  · rw [if_pos ordered, List.findSome?_eq_none_iff]
    intro one _
    simp [failure_series, ordered]
  · rw [if_neg ordered]
    induction series with
    | nil => simp at filled
    | cons first rest inductionHypothesis =>
      rw [List.findSome?_cons, Function.comp_apply, failure_series]
      by_cases empty : first.values = []
      · obtain ⟨one, member, others⟩ := filled
        rcases List.mem_cons.1 member with rfl | inRest
        · exact absurd empty others
        · simp [empty, inductionHypothesis ⟨one, inRest, others⟩]
      · simp [empty, ordered]

section

variable [DrawingLibrary]

/-- The library gives this account of a text or of a legend that it does not draw in a font. -/
def Reports (typeface : Typeface) (account : String) : Prop :=
  (∃ inscription, (DrawingLibrary.write typeface inscription).fault = some account) ∨
    ∃ legend, (DrawingLibrary.explain typeface legend).fault = some account

/-- What may stop the labels of a chart: the library does not write one, or its search for the
points of an axis never ends. -/
inductive LabelCause (typeface : Typeface) (frame : Frame) (labels : Labels) : Cause → Prop
  | lettering (account : String) (reported : Reports typeface account) :
    LabelCause typeface frame labels (.drawing (.lettering account))
  | endless (unfound : DrawingLibrary.points? frame.horizontal labels.columns.length = none ∨
      DrawingLibrary.points? frame.vertical labels.rowCount = none) :
    LabelCause typeface frame labels .endlessSearch

/-- A side of the axes stops a drawing only for a text that is not written. -/
theorem failure_side {typeface : Typeface} {strip line : Box} {labels : List AxisLabel}
    {tick : Int → List Box} {description : Option String} {cause : Cause}
    (stopped : (side typeface strip line labels tick description).failure = some cause) :
    ∃ account, Reports typeface account ∧ cause = .drawing (.lettering account) := by
  have texts (inscription : Inscription)
      (unwritten : (written typeface inscription).failure = some cause) :
      ∃ account, Reports typeface account ∧ cause = .drawing (.lettering account) := by
    obtain ⟨account, faulty, rfl⟩ := Sketch.failure_ofLibrary unwritten
    exact ⟨account, .inl ⟨inscription, faulty⟩, rfl⟩
  rw [side] at stopped
  split at stopped
  · simp [Sketch.blank] at stopped
  · obtain ⟨part, member, unwritten⟩ := Sketch.exists_part_of_failure stopped
    rcases List.mem_append.1 member with marked | described
    · rcases List.mem_cons.1 marked with rfl | ticked
      · simp [Sketch.boxes, Sketch.ofMarks] at unwritten
      · obtain ⟨label, -, either⟩ := List.mem_flatMap.1 ticked
        simp only [List.mem_cons, List.not_mem_nil, or_false] at either
        rcases either with rfl | rfl
        · exact texts _ unwritten
        · simp [Sketch.boxes, Sketch.ofMarks] at unwritten
    · obtain ⟨text, -, rfl⟩ := List.mem_map.1 described
      exact texts _ unwritten

/-- The axes of a labelled chart stop a drawing only as the library does. -/
theorem labelCause_of_failure {typeface : Typeface} {panes : Panes} {frame : Frame}
    {labels : Labels} {cause : Cause}
    (stopped : (labelledAxes typeface panes frame labels).failure = some cause) :
    LabelCause typeface frame labels cause := by
  rw [labelledAxes] at stopped
  split at stopped
  · obtain ⟨part, member, unwritten⟩ := Sketch.exists_part_of_failure stopped
    simp only [List.mem_cons, List.not_mem_nil, or_false] at member
    rcases member with rfl | rfl | rfl | rfl <;>
      · obtain ⟨account, reported, rfl⟩ := failure_side unwritten
        exact .lettering account reported
  · next unfound =>
    obtain rfl : Cause.endlessSearch = cause := Option.some.inj stopped
    refine .endless ?_
    cases inColumns : DrawingLibrary.points? frame.horizontal labels.columns.length with
    | none => exact .inl rfl
    | some columns =>
      cases inRows : DrawingLibrary.points? frame.vertical labels.rowCount with
      | none => exact .inr rfl
      | some rows => exact absurd inRows (unfound columns rows inColumns)

variable (style : Style) (typeface : Typeface)

/-- Why the labels of a chart stop its drawing, if it has any and they do. -/
def labelFailure? (panes : Panes) (frame : Frame) (labels : Labels) : Option Cause :=
  if style.labelled then (labelledAxes typeface panes frame labels).failure else none

/-- A plain chart has no labels that could stop it. -/
theorem labelFailure?_of_plain {style : Style} (plain : style.labelled = false)
    (panes : Panes) (frame : Frame) (labels : Labels) :
    labelFailure? style typeface panes frame labels = none := by
  simp [labelFailure?, plain]

variable {style typeface} in
/-- Labels that stop a chart do so as the library does. -/
theorem labelCause_of_labelFailure? {panes : Panes} {frame : Frame} {labels : Labels}
    {cause : Cause} (stopped : labelFailure? style typeface panes frame labels = some cause) :
    style.labelled = true ∧ LabelCause typeface frame labels cause := by
  rw [labelFailure?] at stopped
  split at stopped
  · next labelled => exact ⟨labelled, labelCause_of_failure stopped⟩
  · simp at stopped

/-- What is under the bars stops a drawing for its labels, or else for a grid. -/
theorem failure_lines (panes : Panes) (frame : Frame) (labels : Labels) (major minor : Float) :
    (lines style typeface panes frame labels major minor).failure =
      (labelFailure? style typeface panes frame labels).or
        (Sketch.gridsRefusal? frame.vertical major minor) := by
  have plain : (Sketch.axes frame).failure = none := rfl
  rw [lines, labelFailure?]
  split
  · rw [Sketch.failure_andThen, Sketch.failure_grid]
  · rw [Sketch.failure_andThen, Sketch.failure_grid, plain, Option.or_none, Option.none_or]

/-- The legend stops a drawing only if there is one, and only as the library does. -/
theorem failure_legend {style : Style} {typeface : Typeface} {area : Box} {series : List Series}
    {cause : Cause} (stopped : (legend style typeface area series).failure = some cause) :
    style.labelled = true ∧
      ∃ account, Reports typeface account ∧ cause = .drawing (.lettering account) := by
  rw [legend] at stopped
  split at stopped
  · next labelled =>
    obtain ⟨account, faulty, rfl⟩ := Sketch.failure_ofLibrary stopped
    exact ⟨labelled, account, .inr ⟨_, faulty⟩, rfl⟩
  · simp [Sketch.blank] at stopped

/-- A plain chart is drawn without any font. -/
theorem chart_of_plain {style : Style} (plain : style.labelled = false) (typeface other : Typeface)
    (panes : Panes) (vertical : Range) (labels : Labels) (major minor : Float)
    (series : List Series) :
    chart style typeface panes vertical labels major minor series =
      chart style other panes vertical labels major minor series := by
  simp [chart, lines, legend, plain]

/-- A chart stops for its labels, or else for a grid, or else, if it has a bar, because its range
has no points, or else for its legend. -/
theorem failure_chart (panes : Panes) (vertical : Range) (labels : Labels) (major minor : Float)
    {series : List Series} (filled : ∃ one ∈ series, one.values ≠ []) :
    let frame : Frame := ⟨panes.area, categories labels.columns.length, vertical⟩
    (chart style typeface panes vertical labels major minor series).failure =
      (labelFailure? style typeface panes frame labels).or
        ((Sketch.gridsRefusal? vertical major minor).or
          ((if vertical.low ≤ vertical.high then none else some .emptyRange).or
            (legend style typeface panes.area series).failure)) := by
  intro frame
  rw [chart, Sketch.failure_inOrder, List.cons_append, List.findSome?_cons, List.findSome?_append,
    failure_bars filled frame, failure_lines, List.findSome?_singleton]
  cases labelFailure? style typeface panes frame labels with
  | some cause => rfl
  | none =>
    simp only [Option.none_or]
    cases Sketch.gridsRefusal? vertical major minor <;> rfl

end

end Plot

end BenchFigures
