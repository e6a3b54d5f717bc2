import BenchFigures.Proofs.Saving
import BenchFigures.Proofs.Sketches

/-!
# Drawing charts

A chart is drawn if its settings are accepted and it has a category. Accepted steps are
positive and finite, so that a grid is only ever refused for having too many lines. The
drawing stops for its labels, for its grids, because its range has no points, or for its
legend, and for labels and the legend only where the library stops.
-/

namespace BenchFigures

/-! ### Accepted settings -/

/-- An accepted step is finite and positive. -/
theorem Configuration.checkStep_eq_ok_iff (name : String) (step : Float) :
    Configuration.checkStep name step = .ok () ↔
      Binary64.isFinite step = true ∧ ¬ step ≤ 0.0 := by
  rw [Configuration.checkStep]
  cases Binary64.isFinite step <;> simp

/-- Settings of a chart of elapsed times are accepted part by part. -/
theorem ElapsedSettings.check_eq_ok_iff (settings : ElapsedSettings) :
    settings.check = .ok () ↔
      Configuration.checkSize settings.width settings.height = .ok () ∧
      (Binary64.isFinite settings.margin = true ∧ ¬ settings.margin < 0.0) ∧
      Configuration.checkStep "major_step" settings.majorStep = .ok () ∧
      Configuration.checkStep "minor_step" settings.minorStep = .ok () := by
  rw [check]
  cases Configuration.checkSize settings.width settings.height with
  | error fault => simp [bind, Except.bind]
  | ok _ =>
    cases Binary64.isFinite settings.margin with
    | false => simp [bind, Except.bind]
    | true =>
      by_cases negative : settings.margin < 0.0
      · simp [bind, Except.bind, negative]
      · cases Configuration.checkStep "major_step" settings.majorStep <;>
          simp [bind, Except.bind, negative]

/-- Settings of a chart of speedups are accepted part by part. -/
theorem SpeedupSettings.check_eq_ok_iff (settings : SpeedupSettings) :
    settings.check = .ok () ↔
      Configuration.checkSize settings.width settings.height = .ok () ∧
      (Binary64.isFinite settings.low = true ∧ Binary64.isFinite settings.high = true ∧
        settings.low < settings.high) ∧
      Configuration.checkStep "major_step" settings.majorStep = .ok () ∧
      Configuration.checkStep "minor_step" settings.minorStep = .ok () := by
  rw [check]
  cases Configuration.checkSize settings.width settings.height with
  | error fault => simp [bind, Except.bind]
  | ok _ =>
    by_cases increasing : settings.low < settings.high
    · cases Binary64.isFinite settings.low <;> cases Binary64.isFinite settings.high <;>
        cases Configuration.checkStep "major_step" settings.majorStep <;>
        simp [bind, Except.bind, increasing]
    · simp [bind, Except.bind, increasing]

/-- An accepted step has a place between any two ends, or there are too many lines. -/
theorem Grid.bounds_of_checkStep {name : String} {step : Float}
    (accepted : Configuration.checkStep name step = .ok ()) (low high : Float) :
    Grid.bounds low high step =
      match Scalar.ceil? (low / step - tolerance), Scalar.floor? (high / step + tolerance) with
      | some first, some last =>
        if limit ≤ last - first then .error .tooManyLines else .ok (first, last)
      | _, _ => .error .tooManyLines := by
  obtain ⟨finite, positive⟩ := (Configuration.checkStep_eq_ok_iff name step).1 accepted
  have zero : (Scalar.ofInt 0 : Float) = 0.0 := by decide +kernel
  have usable : Scalar.isFinite step = true := by
    simpa [Scalar.isFinite, Scalar.floor?, Binary64.floor?, Binary64.isFinite] using finite
  have above : Scalar.le step (Scalar.ofInt 0) = false := by
    rw [zero]
    exact decide_eq_false positive
  rw [Grid.bounds, usable, above]
  rfl

namespace Sketch

/-- A grid is not refused if it has bounds. -/
theorem gridRefusal?_eq_none_iff (range : Range) (step : Float) :
    gridRefusal? range step = none ↔ ∃ ends, Grid.bounds range.low range.high step = .ok ends := by
  rw [gridRefusal?]
  cases Grid.bounds range.low range.high step <;> simp

/-- The grid of an accepted step is refused only for having too many lines. -/
theorem gridRefusal?_of_checkStep {name : String} {step : Float}
    (accepted : Configuration.checkStep name step = .ok ()) {range : Range} {cause : Cause}
    (refused : gridRefusal? range step = some cause) :
    cause = .tooManyGridlines range.low range.high step := by
  rw [gridRefusal?] at refused
  have tooMany (fault : GridFault)
      (failed : Grid.bounds range.low range.high step = .error fault) : fault = .tooManyLines := by
    rw [Grid.bounds_of_checkStep accepted] at failed
    split at failed
    · split at failed
      · simpa using failed.symm
      · simp at failed
    · simpa using failed.symm
  cases computed : Grid.bounds range.low range.high step with
  | ok ends => simp [computed] at refused
  | error fault =>
    rw [computed, tooMany fault computed] at refused
    simpa [GridFault.cause] using refused.symm

end Sketch

/-- Grids of accepted steps are refused only for having too many lines. -/
theorem Sketch.gridsRefusal?_of_checkStep {majorName minorName : String} {major minor : Float}
    (majorAccepted : Configuration.checkStep majorName major = .ok ())
    (minorAccepted : Configuration.checkStep minorName minor = .ok ()) {range : Range}
    {cause : Cause} (refused : gridsRefusal? range major minor = some cause) :
    ∃ step, cause = .tooManyGridlines range.low range.high step := by
  rw [gridsRefusal?, Option.or_eq_some_iff] at refused
  rcases refused with inMinor | ⟨-, inMajor⟩
  · exact ⟨minor, gridRefusal?_of_checkStep minorAccepted inMinor⟩
  · exact ⟨major, gridRefusal?_of_checkStep majorAccepted inMajor⟩

/-! ### The two charts -/

section

variable [DrawingLibrary]

namespace ElapsedChart

variable (chart : ElapsedChart) (style : Style) (typeface : Typeface) (range : Range)

/-- The drawing of a chart in a range, from its first line to its legend. -/
def drawing : Sketch :=
  Plot.chart style typeface (Plot.panes style chart.settings.width chart.settings.height) range
    (chart.labels range) chart.settings.majorStep chart.settings.minorStep chart.series

/-- Where values are placed on a chart with a range. -/
def frame : Frame :=
  ⟨(Plot.panes style chart.settings.width chart.settings.height).area,
    Plot.categories chart.groups.length, range⟩

/-- Why the labels of a chart with a range stop its drawing, if they do. -/
def labelFailure? : Option Cause :=
  Plot.labelFailure? style typeface
    (Plot.panes style chart.settings.width chart.settings.height) (chart.frame style range)
    (chart.labels range)

/-- The legend of a chart. -/
def legend : Sketch :=
  Plot.legend style typeface
    (Plot.panes style chart.settings.width chart.settings.height).area chart.series

omit range in
/-- A chart is drawn with the font that is registered. -/
theorem run_render (path : Path) (workspace : Workspace) :
    (chart.render path style).run workspace =
      (chart.renderWith workspace.typeface path style).run workspace :=
  Action.run_get_bind (fun seen => chart.renderWith seen.typeface path style) workspace

omit range in
theorem result_render (path : Path) (workspace : Workspace) :
    (chart.render path style).result workspace =
      (chart.renderWith workspace.typeface path style).result workspace :=
  congrArg Prod.fst (chart.run_render style path workspace)

omit range in
/-- A chart that is saved once is saved with the same font wherever there is a place for its
file, and leaves the same there. -/
theorem deposits_render {path : Path} {workspace : Workspace}
    (saved : (chart.render path style).result workspace = .ok ()) :
    ∃ location content, workspace.tree.target workspace.working path = .ok location ∧
      (chart.render path style).Deposits workspace.typeface path content [.saved path] := by
  rw [result_render] at saved
  obtain ⟨location, content, reached, deposits⟩ :=
    Sketch.deposits_draw (chart.sketch style workspace.typeface) saved
  refine ⟨location, content, reached, ?_⟩
  intro other place sameFont found
  rw [run_render, sameFont]
  exact deposits _ other place rfl found

omit range in
/-- Only a labelled chart depends on its font. -/
theorem renderWith_congr {style : Style} {typeface other : Typeface}
    (same : style.labelled = true → typeface = other) (path : Path) :
    chart.renderWith typeface path style = chart.renderWith other path style := by
  cases labelled : style.labelled with
  | true => rw [same labelled]
  | false =>
    unfold renderWith ElapsedChart.sketch
    simp only [Plot.chart_of_plain labelled typeface other]

omit range in
/-- A chart is drawn in its range if its settings are accepted. -/
theorem sketch_eq_ok_iff (sketch : Sketch) :
    chart.sketch style typeface = .ok sketch ↔
      chart.settings.check = .ok () ∧
        ∃ range, chart.range = .ok range ∧ sketch = chart.drawing style typeface range := by
  rw [ElapsedChart.sketch]
  cases chart.settings.check with
  | error fault => simp [bind, Except.bind, Except.mapError]
  | ok _ =>
    cases chart.range with
    | error cause => simp [bind, Except.bind, Except.mapError]
    | ok range => simp [bind, Except.bind, Except.mapError, pure, Except.pure, drawing, eq_comm]

variable {chart style typeface range}

omit [DrawingLibrary] in
/-- A chart has a range exactly if it has a category. -/
theorem exists_range_iff : (∃ range, chart.range = .ok range) ↔ chart.groups ≠ [] := by
  rw [ElapsedChart.range, ElapsedGroup.range?]
  cases listed : chart.groups with
  | nil => simp
  | cons first rest =>
    cases last : (first :: rest).getLast? with
    | none => simp at last
    | some final => simp

/-- The drawing of a chart with a category stops for its labels, or else for its grids, or else
because its range has no points, or else for its legend. -/
theorem failure_drawing (filled : chart.groups ≠ []) :
    (chart.drawing style typeface range).failure =
      (chart.labelFailure? style typeface range).or
        ((Sketch.gridsRefusal? range chart.settings.majorStep chart.settings.minorStep).or
          ((if range.low ≤ range.high then none else some .emptyRange).or
            (chart.legend style typeface).failure)) := by
  have count : (chart.labels range).columns.length = chart.groups.length := List.length_map _
  have someFilled : ∃ one ∈ chart.series, one.values ≠ [] :=
    ⟨_, List.mem_cons_self, by simpa using filled⟩
  rw [drawing, Plot.failure_chart style typeface _ _ _ _ _ someFilled, count]
  rfl

end ElapsedChart

namespace SpeedupChart

variable (chart : SpeedupChart) (style : Style) (typeface : Typeface)

/-- The configured vertical range of a chart. -/
def range : Range := ⟨chart.settings.low, chart.settings.high⟩

/-- The drawing of a chart, from its first line to its legend. -/
def drawing : Sketch :=
  Plot.chart style typeface (Plot.panes style chart.settings.width chart.settings.height)
    chart.range (chart.labels chart.range) chart.settings.majorStep chart.settings.minorStep
    chart.series

/-- Where values are placed on a chart. -/
def frame : Frame :=
  ⟨(Plot.panes style chart.settings.width chart.settings.height).area,
    Plot.categories chart.groups.length, chart.range⟩

/-- Why the labels of a chart stop its drawing, if they do. -/
def labelFailure? : Option Cause :=
  Plot.labelFailure? style typeface
    (Plot.panes style chart.settings.width chart.settings.height) (chart.frame style)
    (chart.labels chart.range)

/-- The legend of a chart. -/
def legend : Sketch :=
  Plot.legend style typeface
    (Plot.panes style chart.settings.width chart.settings.height).area chart.series

/-- A chart is drawn with the font that is registered. -/
theorem run_render (path : Path) (workspace : Workspace) :
    (chart.render path style).run workspace =
      (chart.renderWith workspace.typeface path style).run workspace :=
  Action.run_get_bind (fun seen => chart.renderWith seen.typeface path style) workspace

theorem result_render (path : Path) (workspace : Workspace) :
    (chart.render path style).result workspace =
      (chart.renderWith workspace.typeface path style).result workspace :=
  congrArg Prod.fst (chart.run_render style path workspace)

/-- A chart that is saved once is saved with the same font wherever there is a place for its
file, and leaves the same there. -/
theorem deposits_render {path : Path} {workspace : Workspace}
    (saved : (chart.render path style).result workspace = .ok ()) :
    ∃ location content, workspace.tree.target workspace.working path = .ok location ∧
      (chart.render path style).Deposits workspace.typeface path content [.saved path] := by
  rw [result_render] at saved
  obtain ⟨location, content, reached, deposits⟩ :=
    Sketch.deposits_draw (chart.sketch style workspace.typeface) saved
  refine ⟨location, content, reached, ?_⟩
  intro other place sameFont found
  rw [run_render, sameFont]
  exact deposits _ other place rfl found

/-- A chart with a category is drawn if its settings are accepted. -/
theorem sketch_eq_ok_iff (sketch : Sketch) :
    chart.sketch style typeface = .ok sketch ↔
      (chart.settings.check = .ok () ∧ chart.groups ≠ []) ∧
        sketch = chart.drawing style typeface := by
  rw [SpeedupChart.sketch]
  cases listed : chart.groups with
  | nil => simp [bind, Except.bind]
  | cons first rest =>
    cases chart.settings.check with
    | error fault => simp [bind, Except.bind, Except.mapError]
    | ok _ =>
      simp [bind, Except.bind, Except.mapError, pure, Except.pure, drawing, range, eq_comm]

variable {chart style typeface}

/-- The drawing of a chart with a category stops for its labels, or else for its grids, or else
because its range has no points, or else for its legend. -/
theorem failure_drawing (filled : chart.groups ≠ []) :
    (chart.drawing style typeface).failure =
      (chart.labelFailure? style typeface).or
        ((Sketch.gridsRefusal? chart.range chart.settings.majorStep
          chart.settings.minorStep).or
          ((if chart.range.low ≤ chart.range.high then none else some .emptyRange).or
            (chart.legend style typeface).failure)) := by
  have count : (chart.labels chart.range).columns.length = chart.groups.length :=
    List.length_map _
  have someFilled : ∃ one ∈ chart.series, one.values ≠ [] :=
    ⟨_, List.mem_cons_self, by simpa using filled⟩
  rw [drawing, Plot.failure_chart style typeface _ _ _ _ _ someFilled, count]
  rfl

end SpeedupChart

end

end BenchFigures
