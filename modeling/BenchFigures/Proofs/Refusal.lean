import BenchFigures.Chart.BlankLibrary
import BenchFigures.Proofs.Charts
import BenchFigures.Proofs.Traversals

/-!
# Refused charts and their files

A chart that is refused before it is drawn leaves everything alone. A chart that is
refused for having too many gridlines is drawn up to there, and that much of it takes
the place of the file, if the file can be written at all.
-/

namespace BenchFigures

/-- The causes that charts are refused for: unusable settings, nothing to show, and a
grid that is not drawn. -/
def Cause.isRefusal : Cause → Bool
  | .settings _ | .nothingToPlot | .noSpeedupToPlot | .badGridStep _ | .tooManyGridlines _ _ _ =>
    true
  | _ => false

section

variable [DrawingLibrary]

/-- Writing a picture to a file changes the bytes of the file: there is something to be
written, there is a place for it, and it is not what the file holds already. -/
def Picture.Overwrites (picture : Picture) (path : Path) (workspace : Workspace) : Prop :=
  ∃ content location, picture.deposit? path = some content ∧
    workspace.tree.target workspace.working path = .ok location ∧
    workspace.fileBytes? path ≠ some content.toBytes

/-- Writing a picture leaves the bytes of its file alone exactly if it does not overwrite
them. -/
theorem Picture.fileBytes?_written (picture : Picture) (path : Path) (workspace : Workspace) :
    (picture.written path workspace).fileBytes? path = workspace.fileBytes? path ↔
      ¬ picture.Overwrites path workspace := by
  rw [written, Overwrites]
  cases picture.deposit? path with
  | none => simp
  | some content =>
    simp only [Workspace.afterWriting]
    cases reached : workspace.tree.target workspace.working path with
    | error fault => simp
    | ok location => simp [Workspace.fileBytes?_storing reached, eq_comm]

/-- Drawing that fails for a cause of refusal stopped in the middle, and what was drawn until
then was written. -/
theorem Sketch.refused_save {sketch : Sketch} {width height : Nat} {path : Path}
    {before : Workspace} {failure : Failure}
    (failed : (sketch.save width height path).result before = .error failure)
    (refused : failure.cause.isRefusal) :
    sketch.failure = some failure.cause ∧
      ((sketch.save width height path).run before).2 =
        (sketch.picture width height).written path before := by
  have run := sketch.run_save width height path before
  rw [Action.result] at failed
  cases stopped : sketch.failure with
  | some cause =>
    simp only [stopped] at run
    rw [run] at failed ⊢
    obtain rfl : cause.failure = failure := by simpa using failed
    refine ⟨rfl, sketch.afterSaving_eq_written ?_ width height path before⟩
    rw [stopped]
    rintro ⟨⟩
    simp [Cause.failure, Cause.isRefusal] at refused
  | none =>
    simp only [stopped] at run
    rcases run with ⟨fault, run⟩ | ⟨run, -⟩
    · rw [run] at failed
      obtain rfl : (Cause.drawing (.saving fault)).failure = failure := by simpa using failed
      simp [Cause.failure, Cause.isRefusal] at refused
    · simp [run] at failed

/-- A chart that is refused was not begun, and nothing changed, or it was drawn up to the
grid that was refused, and what was drawn until then was written. -/
theorem Sketch.refused_draw {drawn : Except Cause Sketch} {width height : Nat} {path : Path}
    {before : Workspace} {failure : Failure} (action : Action Unit)
    (draws : action = do
      let sketch ← Action.ofExcept id drawn
      sketch.save width height path)
    (failed : action.result before = .error failure) (refused : failure.cause.isRefusal) :
    (drawn = .error failure.cause ∧ (action.run before).2 = before) ∨
      ∃ sketch, drawn = .ok sketch ∧ sketch.failure = some failure.cause ∧
        (action.run before).2 = (sketch.picture width height).written path before := by
  subst draws
  cases drawn with
  | error cause =>
    obtain rfl : cause.failure = failure := Except.error.inj failed
    exact .inl ⟨rfl, rfl⟩
  | ok sketch => exact .inr ⟨sketch, rfl, Sketch.refused_save failed refused⟩

/-- What stops the labels of a chart is no refusal. -/
theorem Plot.LabelCause.not_isRefusal {typeface : Typeface} {frame : Frame} {labels : Labels}
    {cause : Cause} (own : LabelCause typeface frame labels cause) : ¬ cause.isRefusal := by
  cases own <;> simp [Cause.isRefusal]

/-- A chart with accepted steps that is refused while it is drawn has too many gridlines. -/
theorem Plot.tooManyGridlines_of_refusal {style : Style} {typeface : Typeface} {panes : Panes}
    {frame : Frame} {labels : Labels} {area : Box} {series : List Series}
    {majorName minorName : String} {major minor : Float}
    (majorAccepted : Configuration.checkStep majorName major = .ok ())
    (minorAccepted : Configuration.checkStep minorName minor = .ok ()) {range : Range}
    {cause : Cause}
    (stopped : (labelFailure? style typeface panes frame labels).or
      ((Sketch.gridsRefusal? range major minor).or
        ((if range.low ≤ range.high then none else some .emptyRange).or
          (legend style typeface area series).failure)) = some cause)
    (refused : cause.isRefusal) : ∃ step, cause = .tooManyGridlines range.low range.high step := by
  simp only [Option.or_eq_some_iff] at stopped
  rcases stopped with inLabels | ⟨-, inGrids | ⟨-, inBars | ⟨-, inLegend⟩⟩⟩
  · exact absurd refused (labelCause_of_labelFailure? inLabels).2.not_isRefusal
  · exact Sketch.gridsRefusal?_of_checkStep majorAccepted minorAccepted inGrids
  · have inverted : cause = .emptyRange := by
      split at inBars
      · simp at inBars
      · simpa using inBars.symm
    simp [inverted, Cause.isRefusal] at refused
  · obtain ⟨-, account, -, rfl⟩ := failure_legend inLegend
    simp [Cause.isRefusal] at refused

/-- A refused chart of elapsed times leaves everything alone if its settings are not accepted
or it is empty. Otherwise it has too many gridlines, and its file is as before exactly if
what was drawn until then does not overwrite it. -/
theorem ElapsedChart.refused_render {chart : ElapsedChart} {path : Path} {style : Style}
    {before : Workspace} {failure : Failure}
    (failed : (chart.render path style).result before = .error failure)
    (refused : failure.cause.isRefusal) :
    (¬ (chart.settings.check = .ok () ∧ chart.groups ≠ []) →
      ((chart.render path style).run before).2 = before) ∧
    (chart.settings.check = .ok () ∧ chart.groups ≠ [] →
      ∃ range, chart.range = .ok range ∧
        (∃ step, failure.cause = .tooManyGridlines range.low range.high step) ∧
        (((chart.render path style).run before).2.fileBytes? path = before.fileBytes? path ↔
          ¬ ((chart.drawing style before.typeface range).picture chart.settings.width
            chart.settings.height).Overwrites path before)) := by
  rw [chart.result_render] at failed
  rw [chart.run_render]
  rcases Sketch.refused_draw (chart.renderWith before.typeface path style) rfl failed refused with
    ⟨early, same⟩ | ⟨sketch, drawn, stopped, after⟩
  · constructor
    · intro _
      exact same
    · rintro ⟨checked, filled⟩
      obtain ⟨range, ranged⟩ := ElapsedChart.exists_range_iff.2 filled
      have begun := (chart.sketch_eq_ok_iff style before.typeface _).2 ⟨checked, range, ranged, rfl⟩
      exact absurd (early.symm.trans begun) (by simp)
  · obtain ⟨checked, range, ranged, rfl⟩ := (chart.sketch_eq_ok_iff style _ sketch).1 drawn
    have filled := ElapsedChart.exists_range_iff.1 ⟨range, ranged⟩
    constructor
    · intro unaccepted
      exact absurd ⟨checked, filled⟩ unaccepted
    · intro _
      refine ⟨range, ranged, ?_, ?_⟩
      · obtain ⟨-, -, majorAccepted, minorAccepted⟩ :=
          (ElapsedSettings.check_eq_ok_iff _).1 checked
        rw [ElapsedChart.failure_drawing filled] at stopped
        exact Plot.tooManyGridlines_of_refusal majorAccepted minorAccepted stopped refused
      · rw [after]
        exact Picture.fileBytes?_written _ path before

/-- A refused chart of speedups leaves everything alone if its settings are not accepted or it
is empty. Otherwise it has too many gridlines, and its file is as before exactly if what was
drawn until then does not overwrite it. -/
theorem SpeedupChart.refused_render {chart : SpeedupChart} {path : Path} {style : Style}
    {before : Workspace} {failure : Failure}
    (failed : (chart.render path style).result before = .error failure)
    (refused : failure.cause.isRefusal) :
    (¬ (chart.settings.check = .ok () ∧ chart.groups ≠ []) →
      ((chart.render path style).run before).2 = before) ∧
    (chart.settings.check = .ok () ∧ chart.groups ≠ [] →
      (∃ step, failure.cause =
        .tooManyGridlines chart.settings.low chart.settings.high step) ∧
      (((chart.render path style).run before).2.fileBytes? path = before.fileBytes? path ↔
        ¬ ((chart.drawing style before.typeface).picture chart.settings.width
          chart.settings.height).Overwrites path before)) := by
  rw [chart.result_render] at failed
  rw [chart.run_render]
  rcases Sketch.refused_draw (chart.renderWith before.typeface path style) rfl failed refused with
    ⟨early, same⟩ | ⟨sketch, drawn, stopped, after⟩
  · constructor
    · intro _
      exact same
    · intro accepted
      have begun := (chart.sketch_eq_ok_iff style before.typeface _).2 ⟨accepted, rfl⟩
      exact absurd (early.symm.trans begun) (by simp)
  · obtain ⟨⟨checked, filled⟩, rfl⟩ := (chart.sketch_eq_ok_iff style _ sketch).1 drawn
    constructor
    · intro unaccepted
      exact absurd ⟨checked, filled⟩ unaccepted
    · intro _
      constructor
      · obtain ⟨-, -, majorAccepted, minorAccepted⟩ :=
          (SpeedupSettings.check_eq_ok_iff _).1 checked
        rw [SpeedupChart.failure_drawing filled] at stopped
        exact Plot.tooManyGridlines_of_refusal majorAccepted minorAccepted stopped refused
      · rw [after]
        exact Picture.fileBytes?_written _ path before

/-- A chart that is refused leaves everything alone if it is refused before it is drawn: for
its settings or for having no category. It is refused while it is drawn for having too many
gridlines, and then its file is as before exactly if what was drawn until then does not
overwrite it. -/
theorem file_spared_iff_of_refused_render (elapsed : ElapsedChart) (speedups : SpeedupChart)
    (path : Path) (style : Style) (before : Workspace) :
    (∀ failure, (elapsed.render path style).result before = .error failure →
      failure.cause.isRefusal →
      let after := ((elapsed.render path style).run before).2
      (¬ (elapsed.settings.check = .ok () ∧ elapsed.groups ≠ []) → after = before) ∧
      (elapsed.settings.check = .ok () ∧ elapsed.groups ≠ [] →
        ∃ range, elapsed.range = .ok range ∧
          (∃ step, failure.cause = .tooManyGridlines range.low range.high step) ∧
          (after.fileBytes? path = before.fileBytes? path ↔
            ¬ ((elapsed.drawing style before.typeface range).picture elapsed.settings.width
              elapsed.settings.height).Overwrites path before))) ∧
    ∀ failure, (speedups.render path style).result before = .error failure →
      failure.cause.isRefusal →
      let after := ((speedups.render path style).run before).2
      (¬ (speedups.settings.check = .ok () ∧ speedups.groups ≠ []) → after = before) ∧
      (speedups.settings.check = .ok () ∧ speedups.groups ≠ [] →
        (∃ step, failure.cause =
          .tooManyGridlines speedups.settings.low speedups.settings.high step) ∧
        (after.fileBytes? path = before.fileBytes? path ↔
          ¬ ((speedups.drawing style before.typeface).picture speedups.settings.width
            speedups.settings.height).Overwrites path before)) := by
  constructor
  · intro failure failed refused
    exact ElapsedChart.refused_render failed refused
  · intro failure failed refused
    exact SpeedupChart.refused_render failed refused

end

/-- A chart of one run, with a minor step that is accepted but too small for its range. -/
def ElapsedChart.tooFine : ElapsedChart where
  groups :=
    let aggregate := Aggregate.ofSample (⟨[⟨1, 100.0, 0.0⟩], by simp⟩ : Sample Float)
    [⟨"-O0", aggregate, aggregate⟩]
  settings := { width := 160, height := 120, minorStep := 0.05 }

/-- This chart is refused for its gridlines while it is drawn. -/
theorem refused_render_tooFine :
    let before : Workspace := ⟨.empty, [], none, []⟩
    let render := ElapsedChart.tooFine.render ⟨"out.png"⟩ .plain
    ∃ failure range, render.result before = .error failure ∧ failure.cause.isRefusal ∧
      ElapsedChart.tooFine.range = .ok range ∧
      (∃ step, failure.cause = .tooManyGridlines range.low range.high step) ∧
      ((render.run before).2.fileBytes? ⟨"out.png"⟩ = before.fileBytes? ⟨"out.png"⟩ ↔
        ¬ ((ElapsedChart.tooFine.drawing .plain before.typeface range).picture 160 120).Overwrites
          ⟨"out.png"⟩ before) := by
  intro before render
  have refused : (match render.result before with
      | .error failure => failure.cause.isRefusal
      | .ok _ => false) = true := by decide +kernel
  obtain ⟨_, checked⟩ : ∃ done, ElapsedChart.tooFine.settings.check = .ok done :=
    exists_of_isOk (by decide +kernel)
  cases failed : render.result before with
  | ok _ => simp [failed] at refused
  | error failure =>
    rw [failed] at refused
    obtain ⟨-, effect⟩ := (file_spared_iff_of_refused_render ElapsedChart.tooFine
      ⟨[], {}⟩ ⟨"out.png"⟩ .plain before).1 failure failed refused
    obtain ⟨range, ranged, tooMany, spared⟩ := effect ⟨checked, by simp [ElapsedChart.tooFine]⟩
    exact ⟨failure, range, rfl, refused, ranged, tooMany, spared⟩

/-- A refused chart need not leave its file alone: where there was no file, there is one
afterwards. -/
theorem not_file_spared_of_refused_render :
    ¬ ∀ (chart : ElapsedChart) (path : Path) (style : Style) (before : Workspace)
        (failure : Failure),
      (chart.render path style).result before = .error failure → failure.cause.isRefusal →
      ((chart.render path style).run before).2.fileBytes? path = before.fileBytes? path := by
  intro spared
  let before : Workspace := ⟨.empty, [], none, []⟩
  have refused : (match (ElapsedChart.tooFine.render ⟨"out.png"⟩ .plain).result before with
      | .error failure => failure.cause.isRefusal
      | .ok _ => false) = true := by decide +kernel
  have absent : before.fileBytes? ⟨"out.png"⟩ = none := by decide +kernel
  have present : (((ElapsedChart.tooFine.render ⟨"out.png"⟩ .plain).run before).2.fileBytes?
      ⟨"out.png"⟩).isSome = true := by decide +kernel
  cases failed : (ElapsedChart.tooFine.render ⟨"out.png"⟩ .plain).result before with
  | ok _ => simp [failed] at refused
  | error failure =>
    rw [failed] at refused
    rw [spared _ _ _ before failure failed refused, absent] at present
    simp at present

end BenchFigures
