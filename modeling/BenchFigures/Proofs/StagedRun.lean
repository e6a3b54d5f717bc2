import BenchFigures.Chart.BlankLibrary
import BenchFigures.Proofs.Charts
import BenchFigures.Proofs.Loading
import BenchFigures.Proofs.Outputs

/-!
# A run writes in stages

A run prepares everything before it writes: it checks its configuration, loads all
levels and registers the font, which changes no file. Then it writes its outputs in
turn. So a run that cannot be prepared leaves all files alone, no file changes but
those of the outputs, and an output is begun only after all earlier ones are complete.
-/

namespace BenchFigures

/-! ### Preparing a run -/

namespace Workspace

/-- All files are as before, and nothing was reported as saved. -/
structure SameFiles (before after : Workspace) : Prop where
  tree_eq : after.tree = before.tree
  working_eq : after.working = before.working
  events_eq : ∃ added, after.events = before.events ++ added ∧ ∀ path, .saved path ∉ added

namespace SameFiles

theorem trans {before between after : Workspace} (first : SameFiles before between)
    (second : SameFiles between after) : SameFiles before after := by
  obtain ⟨added, reported, quiet⟩ := first.events_eq
  obtain ⟨more, reportedMore, quietMore⟩ := second.events_eq
  refine ⟨second.tree_eq.trans first.tree_eq, second.working_eq.trans first.working_eq,
    added ++ more, by rw [reportedMore, reported, List.append_assoc], ?_⟩
  intro path member
  rcases List.mem_append.1 member with inFirst | inSecond
  · exact quiet path inFirst
  · exact quietMore path inSecond

/-- With the same files, every path leads to the same place. -/
theorem target_iff {before after : Workspace} (same : SameFiles before after) (path : Path)
    (location : Location) :
    after.tree.target after.working path = .ok location ↔
      before.tree.target before.working path = .ok location := by
  rw [same.tree_eq, same.working_eq]

/-- With the same files, paths lead to different places if they did before. -/
theorem apart {before after : Workspace} (same : SameFiles before after) {paths : List Path}
    (apart : before.Apart paths) : after.Apart paths := by
  rw [Apart, same.tree_eq, same.working_eq]
  exact apart

/-- Reports were only added. -/
theorem reports {before after : Workspace} (same : SameFiles before after) :
    ∃ added, after.events = before.events ++ added := by
  obtain ⟨added, reported, -⟩ := same.events_eq
  exact ⟨added, reported⟩

/-- What is reported as saved is saved after all was prepared. -/
theorem savedBetween {before between after : Workspace} {paths : List Path} {output : Output}
    (same : SameFiles before between) (frame : between.Frame paths after)
    (saved : output.SavedBetween before after) : output.SavedBetween between after := by
  obtain ⟨held, added, reported, member⟩ := saved
  obtain ⟨early, reportedEarly, quiet⟩ := same.events_eq
  obtain ⟨later, reportedLater⟩ := frame.events_eq
  refine ⟨held, later, reportedLater, ?_⟩
  obtain rfl : added = early ++ later := by
    rw [reportedLater, reportedEarly, List.append_assoc] at reported
    exact (List.append_cancel_left reported).symm
  exact (List.mem_append.1 member).resolve_left (quiet output.path)

end SameFiles

end Workspace

namespace Action

variable {α β : Type}

/-- An action changes no file and reports none as saved. -/
def KeepsFiles (action : Action α) : Prop :=
  ∀ workspace : Workspace, workspace.SameFiles (action.run workspace).2

/-- Looking changes no file. -/
theorem OnlyLooks.keepsFiles {action : Action α} (looks : action.OnlyLooks) :
    action.KeepsFiles := by
  intro workspace
  rw [looks.run_result]
  exact ⟨rfl, rfl, action.reports workspace, rfl, looks.nothing_saved workspace⟩

/-- Two parts that change no file change none together. -/
theorem KeepsFiles.bind {first : Action α} {next : α → Action β} (keeps : first.KeepsFiles)
    (nextKeeps : ∀ value, (next value).KeepsFiles) : KeepsFiles (first >>= next) := by
  intro workspace
  have begun := keeps workspace
  rw [run_bind]
  rcases run : first.run workspace with ⟨failure | value, between⟩
  · simpa [run] using begun
  · rw [run] at begun
    exact begun.trans (nextKeeps value between)

end Action

namespace Style

/-- What registering a font comes to, whatever is accepted as one. -/
theorem run_registerBy (accepts : List UInt8 → Bool) (path : Path) (workspace : Workspace) :
    (registerBy accepts path).run workspace =
      if isRegistered workspace.font path then (.ok (), workspace)
      else
        match workspace.tree.read workspace.working path with
        | .error fault =>
          (.error ((Cause.file fault).failure.during (.readingFont path)), workspace)
        | .ok content =>
          if accepts content.toBytes then
            (.ok (), { workspace with font := some (Font.mk path content.toBytes) })
          else (.error (Cause.invalidFont path).failure, workspace) := by
  have read : ((Action.readBytes path).during (.readingFont path)).run workspace =
      (((workspace.tree.read workspace.working path).mapError fun fault =>
        (Cause.file fault).failure.during (.readingFont path)).map Content.toBytes, workspace) := by
    simp only [Action.readBytes, Action.run_during, Action.result, Action.run_bind,
      Action.run_look, Action.run_ofExcept]
    cases workspace.tree.read workspace.working path <;> rfl
  change Action.run
    (if isRegistered workspace.font path then pure ()
    else do
      let bytes ← (Action.readBytes path).during (.readingFont path)
      if accepts bytes then set { workspace with font := some (Font.mk path bytes) }
      else Action.fail (.invalidFont path)) workspace = _
  by_cases registered : isRegistered workspace.font path
  · rw [if_pos registered, if_pos registered]
    rfl
  · rw [if_neg registered, if_neg registered, Action.run_bind, read]
    cases workspace.tree.read workspace.working path with
    | error fault => rfl
    | ok content =>
      simp only [Except.mapError, Except.map]
      split <;> rfl

/-- Registering a font finds it registered, registers it, or fails and changes nothing. -/
theorem registerBy_cases (accepts : List UInt8 → Bool) (path : Path) (workspace : Workspace) :
    (isRegistered workspace.font path = true ∧
        (registerBy accepts path).run workspace = (.ok (), workspace)) ∨
      (∃ bytes, (registerBy accepts path).run workspace =
        (.ok (), { workspace with font := some (Font.mk path bytes) })) ∨
      ∃ failure, (registerBy accepts path).run workspace = (.error failure, workspace) := by
  rw [run_registerBy]
  by_cases registered : isRegistered workspace.font path
  · rw [if_pos registered]
    exact .inl ⟨registered, rfl⟩
  · rw [if_neg registered]
    cases workspace.tree.read workspace.working path with
    | error fault => exact .inr (.inr ⟨_, rfl⟩)
    | ok content =>
      dsimp only
      by_cases valid : accepts content.toBytes
      · rw [if_pos valid]
        exact .inr (.inl ⟨_, rfl⟩)
      · rw [if_neg valid]
        exact .inr (.inr ⟨_, rfl⟩)

/-- What choosing a style comes to: the font that is configured, or else found in a known
place, is registered. -/
theorem run_withFontBy (accepts : List UInt8 → Bool) (font : Option Path)
    (workspace : Workspace) :
    (withFontBy accepts font).run workspace =
      match font <|> knownFonts.find? fun path => workspace.tree.isFile workspace.working path with
      | some path =>
        match (registerBy accepts path).run workspace with
        | (.ok _, after) => (.ok ⟨true⟩, after.reporting [.chartFont path])
        | (.error failure, after) => (.error failure, after)
      | none => (.ok plain, workspace.reporting [.noFont]) := by
  unfold withFontBy
  rw [Action.run_bind, Action.run_look]
  simp only
  rcases font <|> knownFonts.find? fun path => workspace.tree.isFile workspace.working path
    with _ | path
  · rfl
  · simp only
    rw [Action.run_bind]
    rcases (registerBy accepts path).run workspace with ⟨_ | _, after⟩ <;> rfl

section

variable [DrawingLibrary]

/-- What choosing a style with a font of the library comes to. -/
theorem run_withFont (font : Option Path) (workspace : Workspace) :
    (withFont font).run workspace =
      match font <|> knownFonts.find? fun path => workspace.tree.isFile workspace.working path with
      | some path =>
        match (registerBy DrawingLibrary.accepts path).run workspace with
        | (.ok _, after) => (.ok ⟨true⟩, after.reporting [.chartFont path])
        | (.error failure, after) => (.error failure, after)
      | none => (.ok plain, workspace.reporting [.noFont]) :=
  run_withFontBy DrawingLibrary.accepts font workspace

/-- Choosing a style changes no file. -/
theorem withFont_keepsFiles (font : Option Path) : (withFont font).KeepsFiles := by
  intro workspace
  have registered (path : Path) :
      ∃ outcome font, (registerBy DrawingLibrary.accepts path).run workspace =
        (outcome, { workspace with font }) := by
    rcases registerBy_cases DrawingLibrary.accepts path workspace with
      ⟨-, run⟩ | ⟨bytes, run⟩ | ⟨failure, run⟩
    · exact ⟨_, workspace.font, run⟩
    · exact ⟨_, some ⟨path, bytes⟩, run⟩
    · exact ⟨_, workspace.font, run⟩
  rw [run_withFont]
  split
  · next path chosen =>
    obtain ⟨outcome, font, run⟩ := registered path
    rw [run]
    cases outcome with
    | error failure => exact ⟨rfl, rfl, [], by simp⟩
    | ok _ => exact ⟨rfl, rfl, [.chartFont path], rfl, by simp⟩
  · exact ⟨rfl, rfl, [.noFont], rfl, by simp⟩

/-- Reports do not change which style is chosen. -/
theorem result_withFont_reporting (font : Option Path) (workspace : Workspace)
    (added : List Event) :
    (withFont font).result (workspace.reporting added) = (withFont font).result workspace := by
  have registered (path : Path) (other : Workspace) :
      (registerBy DrawingLibrary.accepts path).result other =
      if isRegistered other.font path then .ok ()
      else
        match other.tree.read other.working path with
        | .error fault => .error ((Cause.file fault).failure.during (.readingFont path))
        | .ok content =>
          if DrawingLibrary.accepts content.toBytes then .ok ()
          else .error (Cause.invalidFont path).failure := by
    rw [Action.result, run_registerBy]
    split
    · rfl
    · cases other.tree.read other.working path with
      | error fault => rfl
      | ok content =>
        simp only
        split <;> rfl
  have chosen (other : Workspace) : (withFont font).result other =
      match font <|> knownFonts.find? fun path => other.tree.isFile other.working path with
      | some path =>
        ((registerBy DrawingLibrary.accepts path).result other).map fun _ => ⟨true⟩
      | none => .ok plain := by
    rw [Action.result, run_withFont]
    rcases font <|> knownFonts.find? fun path => other.tree.isFile other.working path
      with _ | path
    · rfl
    · simp only [Action.result]
      rcases (registerBy DrawingLibrary.accepts path).run other with ⟨_ | _, after⟩ <;> rfl
  rw [chosen, chosen]
  simp only [registered]
  rfl

end

end Style

section

variable [DrawingLibrary]

/-- Everything a run does before it writes: check, load, choose the style. -/
def prepare (configuration : Configuration) : Action (List LevelResults × Style) := do
  Action.ofResult configuration.check
  let levels ← loadLevels configuration
  let style ← Style.withFont configuration.font
  return (levels, style)

/-- Preparing a run changes no file. -/
theorem prepare_keepsFiles (configuration : Configuration) : (prepare configuration).KeepsFiles :=
  (Action.OnlyLooks.ofResult _).keepsFiles.bind fun _ =>
    (loadLevels_onlyLooks configuration).keepsFiles.bind fun _ =>
      (Style.withFont_keepsFiles _).bind fun _ => (Action.OnlyLooks.pure _).keepsFiles

/-- What preparing a run gives. -/
theorem result_prepare (configuration : Configuration) (workspace : Workspace) :
    (prepare configuration).result workspace =
      configuration.check.bind fun _ =>
        ((loadLevels configuration).result workspace).bind fun levels =>
          ((Style.withFont configuration.font).result workspace).bind fun style =>
            .ok (levels, style) := by
  rw [Action.result, prepare, Action.run_bind, Action.run_ofResult]
  cases configuration.check with
  | error failure => rfl
  | ok _ =>
    have chosen := Style.result_withFont_reporting configuration.font workspace
      ((loadLevels configuration).reports workspace)
    simp only [Except.bind]
    rw [Action.run_bind, (loadLevels_onlyLooks configuration).run_result]
    cases (loadLevels configuration).result workspace with
    | error failure => rfl
    | ok levels =>
      simp only [← chosen]
      rw [Action.run_bind, Action.result]
      rcases (Style.withFont configuration.font).run (workspace.reporting
        ((loadLevels configuration).reports workspace)) with ⟨_ | _, after⟩ <;> rfl

/-- A run is prepared if its configuration is usable, all levels are loaded and the font is
registered. -/
theorem prepare_eq_ok_iff (configuration : Configuration) (workspace : Workspace)
    (levels : List LevelResults) (style : Style) :
    (prepare configuration).result workspace = .ok (levels, style) ↔
      configuration.check = .ok () ∧ (loadLevels configuration).result workspace = .ok levels ∧
        (Style.withFont configuration.font).result workspace = .ok style := by
  rw [result_prepare]
  simp only [bind_eq_ok_iff, Except.ok.injEq, Prod.mk.injEq]
  constructor
  · rintro ⟨_, checked, _, loaded, _, chosen, rfl, rfl⟩
    exact ⟨checked, loaded, chosen⟩
  · rintro ⟨checked, loaded, chosen⟩
    exact ⟨(), checked, levels, loaded, style, chosen, rfl, rfl⟩

/-- A run is not prepared if its configuration is unusable, a level cannot be loaded or the
font cannot be registered. -/
theorem prepare_fails {configuration : Configuration} {workspace : Workspace}
    (unready : (∃ failure, configuration.check = .error failure) ∨
      (∃ level ∈ configuration.levels, ∃ failure,
        (LevelResults.load level (configuration.levelDirectory level)).result workspace =
          .error failure) ∨
      ∃ failure, (Style.withFont configuration.font).result workspace = .error failure) :
    ∃ failure, (prepare configuration).result workspace = .error failure := by
  cases prepared : (prepare configuration).result workspace with
  | error failure => exact ⟨failure, rfl⟩
  | ok both =>
    obtain ⟨checked, loaded, chosen⟩ :=
      (prepare_eq_ok_iff configuration workspace both.1 both.2).1 prepared
    rcases unready with ⟨failure, failed⟩ | ⟨level, member, failure, failed⟩ | ⟨failure, failed⟩
    · simp [checked] at failed
    · rw [result_loadLevels] at loaded
      obtain ⟨results, complete⟩ := (exists_mapM_eq_ok_iff _ _).1 ⟨_, loaded⟩ level member
      exact absurd (complete.symm.trans failed) (by simp)
    · simp [chosen] at failed

/-! ### The outputs of a run -/

namespace Configuration

variable (configuration : Configuration) (levels : List LevelResults) (style : Style)

/-- The chart of elapsed times with one encoding. Its file is complete if it holds the
whole picture of a chart that is completely drawn with the font. -/
def elapsedOutput (encoding : Encoding) (path : Path) : Output where
  path := path
  write := ((ElapsedChart.ofLevels levels encoding configuration.elapsedChart).render path
    style).during (.rendering path)
  IsComplete typeface content := ∃ sketch,
    (ElapsedChart.ofLevels levels encoding configuration.elapsedChart).sketch style typeface =
      .ok sketch ∧
    sketch.failure = none ∧
    (sketch.picture configuration.elapsedChart.width
      configuration.elapsedChart.height).IsWhole content

/-- The chart of speedups. After it the summary is reported. -/
def speedupOutput : Output where
  path := configuration.output.unionSpeedup
  write := do
    let speedups ← Action.ofExcept id (SpeedupChart.ofLevels levels configuration.speedupChart)
    (speedups.render configuration.output.unionSpeedup style).during
      (.rendering configuration.output.unionSpeedup)
    Action.report (.summarized (Summary.table levels))
  IsComplete typeface content := ∃ chart sketch,
    SpeedupChart.ofLevels levels configuration.speedupChart = .ok chart ∧
    chart.sketch style typeface = .ok sketch ∧
    sketch.failure = none ∧
    (sketch.picture configuration.speedupChart.width
      configuration.speedupChart.height).IsWhole content

/-- The three charts, in the order in which they are drawn. -/
def images : List Output :=
  [configuration.elapsedOutput levels style .register configuration.output.registerElapsed,
   configuration.elapsedOutput levels style .stack configuration.output.stackElapsed,
   configuration.speedupOutput levels style]

end Configuration

/-- What the file of a summary holds. -/
def Summary.content (levels : List LevelResults) : Content :=
  .plain (Text.encode (Summary.csv levels).toList)

/-- The summary of levels in a file. -/
def Summary.output (levels : List LevelResults) (path : Path) : Output where
  path := path
  write := writeSummary levels path
  IsComplete _ content := content = Summary.content levels

namespace Configuration

/-- The paths of all files that a run writes, in the order in which it does. -/
def outputPaths (configuration : Configuration) : List Path :=
  [configuration.output.registerElapsed, configuration.output.stackElapsed,
   configuration.output.unionSpeedup] ++ configuration.output.summary.toList

/-- Everything that a run writes, in order. -/
def outputs (configuration : Configuration) (levels : List LevelResults) (style : Style) :
    List Output :=
  configuration.images levels style ++
    configuration.output.summary.toList.map (Summary.output levels)

/-- The outputs have the paths that are configured. -/
theorem path_outputs (configuration : Configuration) (levels : List LevelResults)
    (style : Style) :
    (configuration.outputs levels style).map Output.path = configuration.outputPaths := by
  rw [outputs, outputPaths, images]
  cases configuration.output.summary <;> rfl

/-- What holds of both kinds of charts and of the summary holds of every output. -/
theorem forall_outputs {configuration : Configuration} {levels : List LevelResults} {style : Style}
    {holds : Output → Prop}
    (elapsed : ∀ encoding path, holds (configuration.elapsedOutput levels style encoding path))
    (speedup : holds (configuration.speedupOutput levels style))
    (summary : ∀ path, holds (Summary.output levels path)) :
    ∀ output ∈ configuration.outputs levels style, holds output := by
  intro output member
  rcases List.mem_append.1 member with image | written
  · simp only [images, List.mem_cons, List.not_mem_nil, or_false] at image
    rcases image with rfl | rfl | rfl
    · exact elapsed _ _
    · exact elapsed _ _
    · exact speedup
  · obtain ⟨path, -, rfl⟩ := List.mem_map.1 written
    exact summary path

end Configuration

namespace Output

/-- A chart that is refused before it is drawn leaves its file alone. -/
theorem ends_draw (output : Output) (drawn : Except Cause Sketch) (width height : Nat)
    {before : Workspace}
    (whole : ∀ sketch, drawn = .ok sketch → sketch.failure = none → ∀ content,
      (sketch.picture width height).IsWhole content →
        output.IsComplete before.typeface content) :
    let action : Action Unit := do
      let sketch ← Action.ofExcept id drawn
      sketch.save width height output.path
    output.Ends before (action.result before) (action.run before).2 := by
  intro action
  cases drawn with
  | error cause => exact .refused cause.failure
  | ok sketch => exact ends_save (whole sketch rfl)

/-- Drawing the chart of elapsed times is lawful. -/
theorem isLawful_elapsedOutput (configuration : Configuration) (levels : List LevelResults)
    (style : Style) (encoding : Encoding) (path : Path) :
    (configuration.elapsedOutput levels style encoding path).IsLawful := by
  intro before
  let chart := ElapsedChart.ofLevels levels encoding configuration.elapsedChart
  have drawn : (configuration.elapsedOutput levels style encoding path).Ends before
      ((chart.render path style).result before) ((chart.render path style).run before).2 := by
    rw [chart.result_render, chart.run_render]
    exact ends_draw (configuration.elapsedOutput levels style encoding path)
      (chart.sketch style before.typeface) configuration.elapsedChart.width
      configuration.elapsedChart.height
      (fun sketch sketched finished content whole => ⟨sketch, sketched, finished, whole⟩)
  exact drawn.mapError _

/-- Drawing the chart of speedups is lawful. -/
theorem isLawful_speedupOutput (configuration : Configuration) (levels : List LevelResults)
    (style : Style) : (configuration.speedupOutput levels style).IsLawful := by
  intro before
  have run : (configuration.speedupOutput levels style).write.run before =
      Action.run (do
        let speedups ← Action.ofExcept id
          (SpeedupChart.ofLevels levels configuration.speedupChart)
        (speedups.render configuration.output.unionSpeedup style).during
          (.rendering configuration.output.unionSpeedup)
        Action.report (.summarized (Summary.table levels))) before := rfl
  rw [Action.result, run, Action.run_bind, Action.run_ofExcept]
  cases compared : SpeedupChart.ofLevels levels configuration.speedupChart with
  | error cause => exact .refused _
  | ok chart =>
    have settings : chart.settings = configuration.speedupChart := by
      rw [SpeedupChart.ofLevels] at compared
      cases grouped : levels.mapM SpeedupChart.group with
      | error cause => simp [grouped, bind, Except.bind] at compared
      | ok groups =>
        obtain rfl : (⟨groups, configuration.speedupChart⟩ : SpeedupChart) = chart := by
          simpa [grouped, bind, Except.bind, pure, Except.pure] using compared
        rfl
    have drawn : (configuration.speedupOutput levels style).Ends before
        ((chart.render configuration.output.unionSpeedup style).result before)
        ((chart.render configuration.output.unionSpeedup style).run before).2 := by
      rw [chart.result_render, chart.run_render]
      exact ends_draw (configuration.speedupOutput levels style)
        (chart.sketch style before.typeface) chart.settings.width chart.settings.height
        (fun sketch sketched finished content whole =>
          ⟨chart, sketch, compared, sketched, finished, settings ▸ whole⟩)
    have named := drawn.mapError (Failure.during (.rendering configuration.output.unionSpeedup))
    exact ends_report ((chart.render configuration.output.unionSpeedup style).during
      (.rendering configuration.output.unionSpeedup)) named (by simp)

omit [DrawingLibrary] in
/-- What writing the summary comes to: it needs no more than a place for its file. -/
theorem run_summary (levels : List LevelResults) (path : Path) (before : Workspace) :
    (Summary.output levels path).write.run before =
      match before.tree.target before.working path with
      | .error fault => (.error ((Cause.file fault).failure.during (.writing path)), before)
      | .ok location =>
        (.ok (), (before.storing location (Summary.content levels)).reporting [.saved path]) := by
  have written : Action.run
      ((Action.orFail .file (Action.writeFile path (Summary.content levels))).during
        (.writing path)) before =
      ((before.tree.target before.working path).map (fun _ => ())
        |>.mapError fun fault => (Cause.file fault).failure.during (.writing path),
      before.afterWriting path (Summary.content levels)) := by
    change ((Action.writeFile path (Summary.content levels)).run before).map
      (Except.mapError (Failure.during (.writing path)) ∘
        Except.mapError fun fault => (Cause.file fault).failure) id = _
    rw [Action.run_writeFile]
    cases before.tree.target before.working path <;> rfl
  have composed : (Summary.output levels path).write =
      ((Action.orFail .file (Action.writeFile path (Summary.content levels))).during
        (.writing path)) >>= fun _ => Action.report (.saved path) := rfl
  rw [composed, Action.run_bind, written, Workspace.afterWriting]
  cases before.tree.target before.working path <;> rfl

omit [DrawingLibrary] in
/-- Writing the summary is lawful. -/
theorem isLawful_summary (levels : List LevelResults) (path : Path) :
    (Summary.output levels path).IsLawful := by
  intro before
  rw [Action.result, run_summary]
  cases reached : before.tree.target before.working path with
  | error fault => exact .refused _
  | ok location => exact .saved location _ [] reached rfl (by simp)

omit [DrawingLibrary] in
/-- Writing the summary succeeds if there is a place for its file. -/
theorem needsOnlyPlace_summary (levels : List LevelResults) (path : Path) :
    (Summary.output levels path).NeedsOnlyPlace := by
  intro before location reached
  have found : before.tree.target before.working path = .ok location := reached
  rw [Action.result, run_summary, found]

/-- Every output of a run is lawful. -/
theorem isLawful_outputs (configuration : Configuration) (levels : List LevelResults)
    (style : Style) : ∀ output ∈ configuration.outputs levels style, output.IsLawful :=
  Configuration.forall_outputs (isLawful_elapsedOutput configuration levels style)
    (isLawful_speedupOutput configuration levels style) (isLawful_summary levels)

end Output

/-- A run prepares everything and then writes its outputs in turn. -/
theorem generateAll_eq (configuration : Configuration) :
    generateAll configuration = (do
      let (levels, style) ← prepare configuration
      Output.writeAll (configuration.outputs levels style)
      return levels) := by
  simp only [generateAll, prepare, bind_assoc, pure_bind]
  apply congrArg
  funext _
  apply congrArg
  funext levels
  apply congrArg
  funext style
  rw [Configuration.outputs, Configuration.images]
  cases configuration.output.summary <;>
    simp [Output.writeAll, Configuration.elapsedOutput, Configuration.speedupOutput,
      Summary.output, renderAll]

/-- A run that cannot be prepared ends there. Otherwise its outputs are written, and it
gives the levels if all of them are. -/
theorem run_generateAll (configuration : Configuration) (before : Workspace) :
    (generateAll configuration).run before =
      match (prepare configuration).run before with
      | (.error failure, after) => (.error failure, after)
      | (.ok (levels, style), between) =>
        match (Output.writeAll (configuration.outputs levels style)).run between with
        | (.error failure, after) => (.error failure, after)
        | (.ok _, after) => (.ok levels, after) := by
  rw [generateAll_eq, Action.run_bind]
  rcases (prepare configuration).run before with ⟨_ | ⟨levels, style⟩, between⟩
  · rfl
  · simp only
    rw [Action.run_bind]
    rcases (Output.writeAll (configuration.outputs levels style)).run between
      with ⟨_ | _, after⟩ <;> rfl

/-- A run that cannot be prepared fails and writes nothing. -/
theorem generateAll_of_unprepared {configuration : Configuration} {before : Workspace}
    {failure : Failure} (unready : (prepare configuration).result before = .error failure) :
    (generateAll configuration).result before = .error failure ∧
      before.SameFiles ((generateAll configuration).run before).2 := by
  have same := prepare_keepsFiles configuration before
  have run := run_generateAll configuration before
  rw [Action.result] at unready ⊢
  rcases preparation : (prepare configuration).run before with ⟨other | both, between⟩
  · rw [preparation] at unready same run
    obtain rfl : other = failure := by simpa using unready
    simp only at run
    rw [run]
    exact ⟨rfl, same⟩
  · simp [preparation] at unready

/-- A run that is prepared writes its outputs and gives the levels. -/
theorem generateAll_of_prepared {configuration : Configuration} {before : Workspace}
    {levels : List LevelResults} {style : Style}
    (ready : (prepare configuration).result before = .ok (levels, style)) :
    let between := ((prepare configuration).run before).2
    let writing := Output.writeAll (configuration.outputs levels style)
    (generateAll configuration).result before = (writing.result between).map (fun _ => levels) ∧
      ((generateAll configuration).run before).2 = (writing.run between).2 := by
  intro between writing
  have run := run_generateAll configuration before
  have split : (prepare configuration).run before = (.ok (levels, style), between) :=
    Prod.ext ready rfl
  rw [split] at run
  simp only at run
  rw [Action.result, Action.result, run]
  change _ = Except.map _ (writing.run between).1 ∧ _
  rcases writing.run between with ⟨_ | _, after⟩ <;> exact ⟨rfl, rfl⟩

/-- A run changes the files of its outputs at most. -/
theorem entry_generateAll (configuration : Configuration) (before : Workspace)
    (location : Location) (elsewhere : ∀ path ∈ configuration.outputPaths,
      before.tree.target before.working path ≠ .ok location) :
    FileTree.entry? ((generateAll configuration).run before).2.tree location =
      before.tree.entry? location := by
  have same := prepare_keepsFiles configuration before
  cases prepared : (prepare configuration).result before with
  | error failure => rw [(generateAll_of_unprepared prepared).2.tree_eq]
  | ok both =>
    obtain ⟨levels, style⟩ := both
    have frame := Output.frame_writeAll (Output.isLawful_outputs configuration levels style)
      ((prepare configuration).run before).2
    rw [(generateAll_of_prepared prepared).2, frame.entry_eq location, same.tree_eq]
    intro path member reached
    rw [configuration.path_outputs levels style] at member
    exact elsewhere path member ((same.target_iff path location).1 reached)

section Prepared

variable {configuration : Configuration} {before : Workspace} {levels : List LevelResults}
  {style : Style}

/-- The outputs of a prepared run still have different files. -/
theorem apart_of_prepared (apart : before.Apart configuration.outputPaths) :
    ((prepare configuration).run before).2.Apart
      ((configuration.outputs levels style).map Output.path) := by
  rw [Configuration.path_outputs]
  exact (prepare_keepsFiles configuration before).apart apart

/-- A file that a run changes is that of an output, and all outputs before it were saved. -/
theorem saved_before_change_of_generateAll (apart : before.Apart configuration.outputPaths)
    (ready : (prepare configuration).result before = .ok (levels, style)) {path : Path}
    (member : path ∈ configuration.outputPaths) {location : Location}
    (reached : before.tree.target before.working path = .ok location)
    (changed : FileTree.entry? ((generateAll configuration).run before).2.tree location ≠
      before.tree.entry? location) :
    ∃ earlier output later,
      configuration.outputs levels style = earlier ++ output :: later ∧ output.path = path ∧
      ∀ other ∈ earlier,
        other.SavedBetween before ((generateAll configuration).run before).2 := by
  have same := prepare_keepsFiles configuration before
  rw [← configuration.path_outputs levels style] at member
  obtain ⟨output, listed, rfl⟩ := List.mem_map.1 member
  obtain ⟨earlier, later, split⟩ := List.append_of_mem listed
  rw [(generateAll_of_prepared ready).2] at changed ⊢
  have reachedThere := (same.target_iff output.path location).2 reached
  have changedThere :
      FileTree.entry? ((Output.writeAll (configuration.outputs levels style)).run
        ((prepare configuration).run before).2).2.tree location ≠
      FileTree.entry? ((prepare configuration).run before).2.tree location := by
    rw [same.tree_eq]
    exact changed
  have saved := Output.saved_before_change (Output.isLawful_outputs _ _ _) split
    (apart_of_prepared apart) reachedThere changedThere
  exact ⟨earlier, output, later, split, rfl, fun other earlierMember =>
    (saved other earlierMember).widen same.reports⟩

/-- A run that fails while it writes stops at the output that fails. -/
theorem stopped_of_generateAll (apart : before.Apart configuration.outputPaths)
    (ready : (prepare configuration).result before = .ok (levels, style)) {failure : Failure}
    (failed : (generateAll configuration).result before = .error failure) :
    ∃ earlier output later,
      configuration.outputs levels style = earlier ++ output :: later ∧
      (∀ other ∈ earlier,
        other.SavedBetween before ((generateAll configuration).run before).2) ∧
      ¬ output.Confirmed before ((generateAll configuration).run before).2 ∧
      ((generateAll configuration).run before).2 =
        ((Output.writeAll (earlier ++ [output])).run ((prepare configuration).run before).2).2 := by
  have same := prepare_keepsFiles configuration before
  obtain ⟨outcome, after⟩ := generateAll_of_prepared ready
  have lawful := Output.isLawful_outputs configuration levels style
  have written := Output.frame_writeAll lawful ((prepare configuration).run before).2
  have stopped : (Output.writeAll (configuration.outputs levels style)).result
      ((prepare configuration).run before).2 = .error failure := by
    rw [outcome, map_eq_error_iff] at failed
    exact failed
  obtain ⟨earlier, output, later, split, saved, unconfirmed, begun⟩ :=
    Output.stopped_of_writeAll lawful (apart_of_prepared apart) stopped
  rw [after]
  refine ⟨earlier, output, later, split, ?_, ?_, by rw [begun]⟩
  · intro other member
    exact (saved other member).widen same.reports
  · rintro ⟨held, place | savedNow⟩
    · exact unconfirmed ⟨held, .inl place⟩
    · exact unconfirmed ⟨held, .inr (same.savedBetween written savedNow)⟩

/-- A prepared run succeeds exactly if the charts are saved and the summary is in its file. -/
theorem generateAll_eq_ok_iff_of_prepared (apart : before.Apart configuration.outputPaths)
    (ready : (prepare configuration).result before = .ok (levels, style)) :
    (generateAll configuration).result before = .ok levels ↔
      (∀ image ∈ configuration.images levels style,
        image.SavedBetween before ((generateAll configuration).run before).2) ∧
      ∀ path, configuration.output.summary = some path →
        ((generateAll configuration).run before).2.tree.Holds
          ((generateAll configuration).run before).2.working path (Summary.content levels) := by
  have same := prepare_keepsFiles configuration before
  obtain ⟨outcome, after⟩ := generateAll_of_prepared ready
  constructor
  · intro succeeded
    have written : (Output.writeAll (configuration.outputs levels style)).result
        ((prepare configuration).run before).2 = .ok () := by
      rw [outcome, map_eq_ok_iff] at succeeded
      obtain ⟨_, written, -⟩ := succeeded
      exact written
    have saved := Output.saved_of_writeAll (Output.isLawful_outputs configuration levels style)
      (apart_of_prepared apart) written
    rw [after]
    constructor
    · intro image member
      exact (saved image (List.mem_append_left _ member)).widen same.reports
    · intro path configured
      have listed : Summary.output levels path ∈ configuration.outputs levels style :=
        List.mem_append_right _ (by simp [configured])
      obtain ⟨⟨content, rfl, held⟩, -⟩ := saved _ listed
      exact held
  · rintro ⟨images, summary⟩
    cases ended : (generateAll configuration).result before with
    | ok others =>
      obtain ⟨_, -, given⟩ := (map_eq_ok_iff _ _ _).1 (outcome.symm.trans ended)
      rw [given]
    | error failure =>
      -- The output that failed is none of the charts, and the summary would be in its file.
      obtain ⟨earlier, output, later, split, -, unconfirmed, -⟩ :=
        stopped_of_generateAll apart ready ended
      have listed : output ∈ configuration.outputs levels style := by simp [split]
      rcases List.mem_append.1 listed with image | listedSummary
      · exact absurd ⟨(images output image).1, .inr (images output image)⟩ unconfirmed
      · obtain ⟨path, configured, rfl⟩ := List.mem_map.1 listedSummary
        have held := summary path (by simpa using configured)
        exact absurd ⟨⟨_, rfl, held⟩, .inl (Output.needsOnlyPlace_summary levels path)⟩ unconfirmed

end Prepared

/-- A run whose outputs have different files writes them in stages. If the configuration
is unusable, a level cannot be loaded or the font cannot be registered, the run fails and
leaves all files alone. In every run only files of outputs change. The file of an output
changes only after all earlier outputs were saved in this run, and a run that fails while
it writes does nothing after the output that fails. The run gives the levels exactly if
the three charts were saved and the summary, if one is configured, holds the table of
these levels. -/
theorem generateAll_staged (configuration : Configuration) (before : Workspace)
    (apart : before.Apart configuration.outputPaths) :
    let outcome := (generateAll configuration).result before
    let after := ((generateAll configuration).run before).2
    ((∃ failure, configuration.check = .error failure) ∨
        (∃ level ∈ configuration.levels, ∃ failure,
          (LevelResults.load level (configuration.levelDirectory level)).result before =
            .error failure) ∨
        (∃ failure, (Style.withFont configuration.font).result before = .error failure) →
      (∃ failure, outcome = .error failure) ∧ after.tree = before.tree) ∧
    (∀ location,
      (∀ path ∈ configuration.outputPaths,
        before.tree.target before.working path ≠ .ok location) →
      after.tree.entry? location = before.tree.entry? location) ∧
    (∀ path ∈ configuration.outputPaths, ∀ location,
      before.tree.target before.working path = .ok location →
      after.tree.entry? location ≠ before.tree.entry? location →
      ∃ levels style earlier output later,
        (prepare configuration).result before = .ok (levels, style) ∧
        configuration.outputs levels style = earlier ++ output :: later ∧ output.path = path ∧
        ∀ other ∈ earlier, other.SavedBetween before after) ∧
    (∀ failure levels style, outcome = .error failure →
      (prepare configuration).result before = .ok (levels, style) →
      ∃ earlier output later,
        configuration.outputs levels style = earlier ++ output :: later ∧
        (∀ other ∈ earlier, other.SavedBetween before after) ∧
        after = ((Output.writeAll (earlier ++ [output])).run
          ((prepare configuration).run before).2).2) ∧
    ∀ levels, outcome = .ok levels ↔
      (loadLevels configuration).result before = .ok levels ∧
      ∃ style, (Style.withFont configuration.font).result before = .ok style ∧
        (∀ image ∈ configuration.images levels style, image.SavedBetween before after) ∧
        ∀ path, configuration.output.summary = some path →
          after.tree.Holds after.working path (Summary.content levels) := by
  intro outcome after
  refine ⟨?_, entry_generateAll configuration before, ?_, ?_, ?_⟩
  · intro unready
    obtain ⟨failure, failed⟩ := prepare_fails unready
    obtain ⟨ended, same⟩ := generateAll_of_unprepared failed
    exact ⟨⟨failure, ended⟩, same.tree_eq⟩
  · intro path member location reached changed
    cases prepared : (prepare configuration).result before with
    | error failure =>
      have same := (generateAll_of_unprepared prepared).2.tree_eq
      exact absurd (congrArg (fun tree : FileTree => tree.entry? location) same) changed
    | ok both =>
      obtain ⟨levels, style⟩ := both
      obtain ⟨earlier, output, later, split, own, saved⟩ :=
        saved_before_change_of_generateAll apart prepared member reached changed
      exact ⟨levels, style, earlier, output, later, rfl, split, own, saved⟩
  · intro failure levels style failed ready
    obtain ⟨earlier, output, later, split, saved, -, stopped⟩ :=
      stopped_of_generateAll apart ready failed
    exact ⟨earlier, output, later, split, saved, stopped⟩
  · intro levels
    cases prepared : (prepare configuration).result before with
    | error failure =>
      obtain ⟨ended, same⟩ := generateAll_of_unprepared prepared
      constructor
      · intro succeeded
        exact absurd (ended.symm.trans succeeded) (by simp)
      · rintro ⟨-, style, -, images, -⟩
        -- Nothing was written, so nothing can have been reported as saved.
        obtain ⟨-, added, reported, member⟩ :=
          same.savedBetween (.refl [] after) (images _ List.mem_cons_self)
        obtain rfl : added = [] := List.self_eq_append_right.1 reported
        simp at member
    | ok both =>
      obtain ⟨loadedLevels, style⟩ := both
      obtain ⟨-, loaded, chosen⟩ :=
        (prepare_eq_ok_iff configuration before loadedLevels style).1 prepared
      have exactly := generateAll_eq_ok_iff_of_prepared apart prepared
      constructor
      · intro succeeded
        have given := (generateAll_of_prepared prepared).1
        obtain ⟨_, -, rfl⟩ := (map_eq_ok_iff _ _ _).1 (given.symm.trans succeeded)
        exact ⟨loaded, style, chosen, exactly.1 succeeded⟩
      · rintro ⟨sameLoaded, otherStyle, sameChosen, saved⟩
        obtain rfl : loadedLevels = levels := by simpa [loaded] using sameLoaded
        obtain rfl : style = otherStyle := by simpa [chosen] using sameChosen
        exact exactly.2 saved

end

/-- A workspace with the results of one level and a directory for outputs. -/
def Workspace.oneLevel : Workspace where
  tree :=
    let results : Entry := .file (.plain (Text.encode "run,elapsed,deviation\n1,20,0\n".toList))
    let below (level : Location) : List (Location × Entry) :=
      ["br", "bs", "ur", "us"].flatMap fun variant =>
        [(level ++ [variant], .directory), (level ++ [variant, "runs.csv"], results)]
    let entries : List (Location × Entry) :=
      [(["out"], .directory), (["data"], .directory), (["data", "GCC"], .directory),
       (["data", "GCC", "O0"], .directory)] ++ below ["data", "GCC", "O0"]
    entries.foldl (fun tree (location, entry) => tree.put location entry) .empty
  working := []
  font := none
  events := []

/-- The configuration of that one level, with a summary. -/
def Configuration.oneLevel : Configuration where
  levels := [.O0]
  output := { summary := some ⟨"out/summary.csv"⟩ }

/-- A run over one level succeeds, so the charts are saved and the summary is written. -/
theorem generateAll_oneLevel :
    Workspace.oneLevel.Apart Configuration.oneLevel.outputPaths ∧
      ∃ levels, (generateAll .oneLevel).result .oneLevel = .ok levels ∧
        let after := ((generateAll .oneLevel).run .oneLevel).2
        (∃ style, ∀ image ∈ Configuration.oneLevel.images levels style,
          image.SavedBetween .oneLevel after) ∧
        after.tree.Holds after.working ⟨"out/summary.csv"⟩ (Summary.content levels) := by
  have apart : Workspace.oneLevel.Apart Configuration.oneLevel.outputPaths := by
    have places : Configuration.oneLevel.outputPaths.map
        (Workspace.oneLevel.tree.target Workspace.oneLevel.working) =
        [.ok ["out", "register_elapsed.png"], .ok ["out", "stack_elapsed.png"],
         .ok ["out", "union_speedup.png"], .ok ["out", "summary.csv"]] := by decide +kernel
    have different : (Configuration.oneLevel.outputPaths.map
        (Workspace.oneLevel.tree.target Workspace.oneLevel.working)).Pairwise (· ≠ ·) := by
      rw [places]
      decide +kernel
    refine (List.pairwise_map.1 different).imp ?_
    intro path other distinct location reached otherReached
    exact distinct (reached.trans otherReached.symm)
  obtain ⟨levels, given⟩ : ∃ levels, (generateAll .oneLevel).result .oneLevel = .ok levels :=
    exists_of_isOk (by decide +kernel)
  obtain ⟨-, -, -, -, exactly⟩ := generateAll_staged .oneLevel .oneLevel apart
  obtain ⟨-, style, -, images, summary⟩ := (exactly levels).1 given
  exact ⟨apart, levels, given, ⟨style, images⟩, summary _ rfl⟩

end BenchFigures
