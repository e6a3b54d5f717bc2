import BenchFigures.Proofs.Binary64
import BenchFigures.Proofs.LoadedLevels
import BenchFigures.Proofs.StagedRun

/-!
# What can still fail

Some failures cannot happen once a configuration is accepted: its settings stay accepted, so
there is a category and every step is usable, and statistics that were just read are compared
once only. What is left after all levels are loaded is a font that cannot be used, a range with
too many gridlines, a text or a legend that the library does not draw, a picture that cannot be
saved and a summary that cannot be written.

Besides these failures a chart of elapsed times may stop the program for an inverted range, and
the search for the points to label on an axis may never end.

The kinds of failures of an action are found part by part: those of a sequence are those of its
parts, and a circumstance is added to each.
-/

namespace BenchFigures

namespace Action

variable {α β ε : Type}

/-- Whatever it works on, the action fails in one way at most. -/
def FailsOnly (action : Action α) (kind : Failure → Prop) : Prop :=
  ∀ workspace failure, action.result workspace = .error failure → kind failure

namespace FailsOnly

variable {kind : Failure → Prop}

theorem mono {action : Action α} {other : Failure → Prop} (fails : action.FailsOnly kind)
    (weaker : ∀ failure, kind failure → other failure) : action.FailsOnly other :=
  fun workspace failure failed => weaker failure (fails workspace failure failed)

theorem pure (value : α) : (Pure.pure value : Action α).FailsOnly kind := by
  intro workspace failure failed
  simp [result] at failed

theorem report (event : Event) : (Action.report event).FailsOnly kind := by
  intro workspace failure failed
  simp [result] at failed

theorem look (question : FileTree → Location → α) : (Action.look question).FailsOnly kind := by
  intro workspace failure failed
  simp [result] at failed

theorem fail {cause : Cause} (own : kind cause.failure) :
    (Action.fail cause : Action α).FailsOnly kind := by
  intro workspace failure failed
  obtain rfl : cause.failure = failure := by simpa [result] using failed
  exact own

theorem ofResult {computed : Except Failure α}
    (own : ∀ failure, computed = .error failure → kind failure) :
    (Action.ofResult computed).FailsOnly kind := by
  intro workspace failure failed
  rw [result, run_ofResult] at failed
  exact own failure failed

theorem ofExcept {cause : ε → Cause} {computed : Except ε α}
    (own : ∀ fault, computed = .error fault → kind (cause fault).failure) :
    (Action.ofExcept cause computed).FailsOnly kind := by
  intro workspace failure failed
  rw [result, run_ofExcept] at failed
  obtain ⟨fault, found, rfl⟩ := (mapError_eq_error_iff _ _ _).1 failed
  exact own fault found

/-- A circumstance is named in every failure. -/
theorem during {action : Action α} {circumstance : Circumstance}
    (fails : action.FailsOnly fun failure => kind (failure.during circumstance)) :
    (action.during circumstance).FailsOnly kind := by
  intro workspace failure failed
  rw [result, run_during] at failed
  obtain ⟨inner, found, rfl⟩ := (mapError_eq_error_iff _ _ _).1 failed
  exact fails workspace inner found

/-- A sequence fails as its first part does or as the second one does after it. -/
theorem bind {first : Action α} {next : α → Action β} (fails : first.FailsOnly kind)
    (nextFails : ∀ value, (next value).FailsOnly kind) :
    FailsOnly (first >>= next : Action β) kind := by
  intro workspace failure failed
  rw [result, run_bind] at failed
  rcases run : first.run workspace with ⟨inner | value, after⟩
  · obtain rfl : inner = failure := by simpa [run] using failed
    exact fails workspace inner (congrArg Prod.fst run)
  · rw [run] at failed
    exact nextFails value after failure failed

end FailsOnly

end Action

/-! ### Loading -/

/-- The causes that an accepted configuration and fresh statistics rule out. -/
def Cause.isPrecluded : Cause → Bool
  | .settings _ | .alreadyCompared _ | .notCompared _ _ | .nothingToPlot | .noSpeedupToPlot
  | .badGridStep _ => true
  | _ => false

/-- A failure whose cause is not ruled out. -/
def Failure.IsPossible (failure : Failure) : Prop := failure.cause.isPrecluded = false

/-- Finding a result file fails for the directory or for what is in it. -/
theorem ResultDirectory.findFile_failsOnly (directory : Path) :
    (findFile directory).FailsOnly Failure.IsPossible := by
  refine .bind (.look _) fun listing => ?_
  refine .bind (.during (.ofExcept fun _ _ => rfl)) fun entries => ?_
  refine .bind (.ofExcept ?_) fun file => .bind (.report _) fun _ => .pure _
  intro cause found
  rw [onlyFile] at found
  split at found
  · exact Except.error.inj found ▸ rfl
  · simp at found
  · exact Except.error.inj found ▸ rfl

namespace ResultFile

/-- A number fails to be read for its field or for its text. -/
theorem number_fails {α ε : Type} {file : Path} {line : Nat} {texts : List (List Char)}
    {index : Nat} {cause : ε → Cause} {read : List Char → Except ε α}
    (possible : ∀ fault, (cause fault).isPrecluded = false) {failure : Failure}
    (failed : number file line texts index cause read = .error failure) : failure.IsPossible := by
  rw [number, field] at failed
  cases found : texts[index]? with
  | none =>
    simp only [found] at failed
    exact Except.error.inj failed ▸ rfl
  | some text =>
    simp only [found, bind, Except.bind] at failed
    cases value : read text with
    | ok value => simp [value] at failed
    | error fault =>
      simp only [value] at failed
      exact Except.error.inj failed ▸ possible fault

/-- A record fails to be a run for its text or for one of its numbers. -/
theorem run_fails {file : Path} {record : Table.Record} {failure : Failure}
    (failed : run file record = .error failure) : failure.IsPossible := by
  have unfolded : run file record =
      (record.texts.mapError fun fault =>
        (Cause.table fault).failure.during (.reading file)).bind fun texts =>
      (number file record.start.line texts 0 .notInteger Numeral.integer).bind fun index =>
      (number file record.start.line texts 1 .notFloat Numeral.float).bind fun elapsed =>
      (number file record.start.line texts 2 .notFloat Numeral.float).bind fun meanDeviation =>
      .ok { index, elapsed, meanDeviation } := rfl
  rw [unfolded] at failed
  simp only [bind_eq_error_iff] at failed
  rcases failed with unread | ⟨texts, -, noIndex | ⟨_, -, noElapsed | ⟨_, -, noDeviation |
    ⟨_, -, done⟩⟩⟩⟩
  · obtain ⟨fault, -, rfl⟩ := (mapError_eq_error_iff _ _ _).1 unread
    rfl
  · exact number_fails (fun _ => rfl) noIndex
  · exact number_fails (fun _ => rfl) noElapsed
  · exact number_fails (fun _ => rfl) noDeviation
  · simp at done

/-- Reading a result file fails for the file or for what is in it. -/
theorem read_failsOnly (file : Path) : (read file).FailsOnly Failure.IsPossible := by
  have opened : (open? file).FailsOnly Failure.IsPossible := by
    refine .bind (.look _) fun found => ?_
    rcases found with fault | _ | content
    · exact .during (.fail rfl)
    · exact .during (.fail rfl)
    · exact .pure _
  refine opened.bind fun bytes => .bind (.ofResult ?_) fun found =>
    .bind (.report _) fun _ => .during (.ofExcept fun _ _ => rfl)
  intro failure failed
  obtain ⟨_, record, _, _, _, spoiled⟩ := (mapM_eq_error_iff _ _ _).1 failed
  exact run_fails spoiled

end ResultFile

/-- Loading levels fails for a result file that is missing or cannot be read, and never because
statistics are compared twice. -/
theorem loadLevels_failsOnly (configuration : Configuration) :
    (loadLevels configuration).FailsOnly Failure.IsPossible := by
  intro workspace failure failed
  rw [result_loadLevels] at failed
  obtain ⟨_, level, _, _, _, failedHere⟩ := (mapM_eq_error_iff _ _ _).1 failed
  rcases LevelResults.first_failure_of_load failedHere with
    ⟨variant, inner, missed, rfl⟩ | ⟨variant, inner, spoiled, rfl⟩
  · obtain ⟨_, _, _, _, unfound⟩ := missed
    exact ResultDirectory.findFile_failsOnly _ workspace inner unfound
  · obtain ⟨_, _, _, file, _, _, _, unread⟩ := spoiled
    exact ResultFile.read_failsOnly file workspace inner unread

/-! ### Drawing and saving -/

/-- Grids of accepted steps are refused for the lines of one of these steps. -/
theorem Sketch.refused_step {majorName minorName : String} {major minor : Float}
    (majorAccepted : Configuration.checkStep majorName major = .ok ())
    (minorAccepted : Configuration.checkStep minorName minor = .ok ()) {range : Range}
    {cause : Cause} (refused : gridsRefusal? range major minor = some cause) :
    ∃ step ∈ [major, minor], cause = .tooManyGridlines range.low range.high step := by
  rw [gridsRefusal?, Option.or_eq_some_iff] at refused
  rcases refused with inMinor | ⟨-, inMajor⟩
  · exact ⟨minor, by simp, gridRefusal?_of_checkStep minorAccepted inMinor⟩
  · exact ⟨major, by simp, gridRefusal?_of_checkStep majorAccepted inMajor⟩

section

variable [DrawingLibrary]

/-- A drawing is saved unless it stopped or the picture cannot be saved. -/
theorem Sketch.save_failsOnly (sketch : Sketch) (width height : Nat) (path : Path) :
    (sketch.save width height path).FailsOnly fun failure =>
      (∃ cause, sketch.failure = some cause ∧ failure = cause.failure) ∨
        ∃ fault, failure = (Cause.drawing (.saving fault)).failure := by
  intro workspace failure failed
  have run := sketch.run_save width height path workspace
  rw [Action.result] at failed
  cases stopped : sketch.failure with
  | some cause =>
    simp only [stopped] at run
    rw [run] at failed
    exact .inl ⟨cause, rfl, (Except.error.inj failed).symm⟩
  | none =>
    simp only [stopped] at run
    rcases run with ⟨fault, run⟩ | ⟨run, -⟩
    · rw [run] at failed
      exact .inr ⟨fault, (Except.error.inj failed).symm⟩
    · simp [run] at failed

/-- The library never finds the points to label on one of the axes of a chart. -/
def Plot.NeverLabelled (range : Range) (labels : Labels) : Prop :=
  DrawingLibrary.points? (categories labels.columns.length) labels.columns.length = none ∨
    DrawingLibrary.points? range labels.rowCount = none

/-- What may end drawing and saving a chart with accepted steps in a range. -/
inductive Plot.RenderCause (style : Style) (range : Range) (labels : Labels)
    (steps : List Float) : Cause → Prop
  | crowded (step : Float) (own : step ∈ steps) :
    RenderCause style range labels steps (.tooManyGridlines range.low range.high step)
  /-- The library does not draw a text or the legend. -/
  | unlettered (labelled : style.labelled = true) (typeface : Typeface) (account : String)
    (reported : Reports typeface account) :
    RenderCause style range labels steps (.drawing (.lettering account))
  | unsaved (fault : SavingFault) : RenderCause style range labels steps (.drawing (.saving fault))
  | inverted (unordered : ¬ range.low ≤ range.high) :
    RenderCause style range labels steps .emptyRange
  | endless (labelled : style.labelled = true) (never : NeverLabelled range labels) :
    RenderCause style range labels steps .endlessSearch

/-- None of these causes is ruled out. -/
theorem Plot.RenderCause.isPossible {style : Style} {range : Range} {labels : Labels}
    {steps : List Float} {cause : Cause} (own : RenderCause style range labels steps cause) :
    cause.failure.IsPossible := by
  cases own <;> rfl

/-- A chart with accepted steps stops for one of these causes. -/
theorem Plot.renderCause_of_stopped {style : Style} {typeface : Typeface} {panes : Panes}
    {area : Box} {range : Range} {labels : Labels} {series : List Series}
    {majorName minorName : String} {major minor : Float}
    (majorAccepted : Configuration.checkStep majorName major = .ok ())
    (minorAccepted : Configuration.checkStep minorName minor = .ok ()) {cause : Cause}
    (stopped : (labelFailure? style typeface panes
        ⟨panes.area, categories labels.columns.length, range⟩ labels).or
      ((Sketch.gridsRefusal? range major minor).or
        ((if range.low ≤ range.high then none else some .emptyRange).or
          (legend style typeface area series).failure)) = some cause) :
    RenderCause style range labels [major, minor] cause := by
  simp only [Option.or_eq_some_iff] at stopped
  rcases stopped with inLabels | ⟨-, inGrids | ⟨-, inBars | ⟨-, inLegend⟩⟩⟩
  · obtain ⟨labelled, own⟩ := labelCause_of_labelFailure? inLabels
    cases own with
    | lettering account reported => exact .unlettered labelled typeface account reported
    | endless unfound => exact .endless labelled unfound
  · obtain ⟨step, own, rfl⟩ := Sketch.refused_step majorAccepted minorAccepted inGrids
    exact .crowded step own
  · split at inBars
    · simp at inBars
    · next unordered =>
      obtain rfl := Option.some.inj inBars
      exact .inverted unordered
  · obtain ⟨labelled, account, reported, rfl⟩ := failure_legend inLegend
    exact .unlettered labelled typeface account reported

/-- The charts of elapsed times of some levels fail in their range for one of these causes. -/
theorem ElapsedChart.render_failsOnly {levels : List LevelResults} (filled : levels ≠ [])
    (encoding : Encoding) {settings : ElapsedSettings} (checked : settings.check = .ok ())
    (path : Path) (style : Style) :
    let chart := ofLevels levels encoding settings
    (chart.render path style).FailsOnly fun failure =>
      ∃ range cause, chart.range = .ok range ∧ failure = cause.failure ∧
        Plot.RenderCause style range (chart.labels range)
          [settings.majorStep, settings.minorStep] cause := by
  intro chart workspace failure failed
  obtain ⟨range, ranged, sketched⟩ :=
    exists_sketch_ofLevels filled encoding checked style workspace.typeface
  obtain ⟨-, -, majorAccepted, minorAccepted⟩ := (ElapsedSettings.check_eq_ok_iff _).1 checked
  have categories : chart.groups ≠ [] := exists_range_iff.1 ⟨range, ranged⟩
  have count : (chart.labels range).columns.length = chart.groups.length := List.length_map _
  have saves : chart.renderWith workspace.typeface path style =
      (chart.drawing style workspace.typeface range).save chart.settings.width
        chart.settings.height path := by
    rw [renderWith, sketched]
    rfl
  rw [result_render, saves] at failed
  rcases Sketch.save_failsOnly _ _ _ _ workspace failure failed with
    ⟨cause, stopped, rfl⟩ | ⟨fault, rfl⟩
  · rw [failure_drawing categories, labelFailure?, frame, ← count] at stopped
    exact ⟨range, cause, ranged, rfl,
      Plot.renderCause_of_stopped majorAccepted minorAccepted stopped⟩
  · exact ⟨range, _, ranged, rfl, .unsaved fault⟩

/-- The chart of speedups of some levels fails for one of these causes, and its range is not
inverted. -/
theorem SpeedupChart.render_failsOnly {levels : List LevelResults} (filled : levels ≠ [])
    {settings : SpeedupSettings} (checked : settings.check = .ok ()) {chart : SpeedupChart}
    (made : ofLevels levels settings = .ok chart) (path : Path) (style : Style) :
    (chart.render path style).FailsOnly fun failure => ∃ cause, failure = cause.failure ∧
      Plot.RenderCause style ⟨settings.low, settings.high⟩
        (chart.labels ⟨settings.low, settings.high⟩) [settings.majorStep, settings.minorStep]
        cause ∧ cause ≠ .emptyRange := by
  intro workspace failure failed
  have sketched := sketch_ofLevels filled checked made style workspace.typeface
  obtain ⟨grouped, rfl⟩ := (ofLevels_eq_ok_iff _ _ _).1 made
  obtain ⟨-, ⟨-, -, increasing⟩, majorAccepted, minorAccepted⟩ :=
    (SpeedupSettings.check_eq_ok_iff _).1 checked
  have ordered : chart.range.low ≤ chart.range.high := Binary64.le_of_lt increasing
  have categories : chart.groups ≠ [] :=
    ((chart.sketch_eq_ok_iff style workspace.typeface _).1 sketched).1.2
  have count : (chart.labels chart.range).columns.length = chart.groups.length :=
    List.length_map _
  have saves : chart.renderWith workspace.typeface path style =
      (chart.drawing style workspace.typeface).save chart.settings.width
        chart.settings.height path := by
    rw [renderWith, sketched]
    rfl
  rw [result_render, saves] at failed
  rcases Sketch.save_failsOnly _ _ _ _ workspace failure failed with
    ⟨cause, stopped, rfl⟩ | ⟨fault, rfl⟩
  · rw [failure_drawing categories, labelFailure?, frame, ← count] at stopped
    have own := Plot.renderCause_of_stopped majorAccepted minorAccepted stopped
    refine ⟨cause, rfl, own, ?_⟩
    rintro rfl
    cases own with
    | inverted unordered => exact unordered ordered
  · exact ⟨_, rfl, .unsaved fault, by simp⟩

/-! ### Failures of a run -/

/-- The image of a chart of elapsed times. -/
def OutputFiles.elapsed (output : OutputFiles) : Encoding → Path
  | .register => output.registerElapsed
  | .stack => output.stackElapsed

/-- The paths of all images. -/
def OutputFiles.images (output : OutputFiles) : List Path :=
  [output.registerElapsed, output.stackElapsed, output.unionSpeedup]

omit [DrawingLibrary] in
theorem OutputFiles.elapsed_mem_images (output : OutputFiles) (encoding : Encoding) :
    output.elapsed encoding ∈ output.images := by
  cases encoding <;> simp [elapsed, images]

omit [DrawingLibrary] in
theorem OutputFiles.unionSpeedup_mem_images (output : OutputFiles) :
    output.unionSpeedup ∈ output.images := by
  simp [images]

/-- A font that a run may use: the configured one or, if there is none, one in a known place. -/
def Configuration.MayUse (configuration : Configuration) (font : Path) : Prop :=
  configuration.font = some font ∨ configuration.font = none ∧ font ∈ Style.knownFonts

/-- What a run can fail with after it has loaded its levels, with all circumstances. -/
inductive LateFailure (configuration : Configuration) (levels : List LevelResults) :
    Failure → Prop
  | unreadableFont (font : Path) (used : configuration.MayUse font) (fault : FileFault) :
    LateFailure configuration levels ⟨[.readingFont font], .file fault⟩
  | invalidFont (font : Path) (used : configuration.MayUse font) :
    LateFailure configuration levels ⟨[], .invalidFont font⟩
  /-- A chart of elapsed times has too many gridlines in its range. -/
  | crowdedElapsed (encoding : Encoding) (range : Range) (step : Float)
    (own : step ∈ [configuration.elapsedChart.majorStep, configuration.elapsedChart.minorStep])
    (ranged : (ElapsedChart.ofLevels levels encoding configuration.elapsedChart).range =
      .ok range) :
    LateFailure configuration levels
      ⟨[.rendering (configuration.output.elapsed encoding)],
        .tooManyGridlines range.low range.high step⟩
  /-- The chart of speedups has too many gridlines in the configured range. -/
  | crowdedSpeedup (step : Float)
    (own : step ∈ [configuration.speedupChart.majorStep, configuration.speedupChart.minorStep]) :
    LateFailure configuration levels
      ⟨[.rendering configuration.output.unionSpeedup],
        .tooManyGridlines configuration.speedupChart.low configuration.speedupChart.high step⟩
  /-- The library does not draw a text or the legend of an image. There are none without a font
  that may be used. -/
  | unlettered (image : Path) (own : image ∈ configuration.output.images) (font : Path)
    (used : configuration.MayUse font) (typeface : Typeface) (account : String)
    (reported : Plot.Reports typeface account) :
    LateFailure configuration levels ⟨[.rendering image], .drawing (.lettering account)⟩
  | unsaved (image : Path) (own : image ∈ configuration.output.images) (fault : SavingFault) :
    LateFailure configuration levels ⟨[.rendering image], .drawing (.saving fault)⟩
  | unwrittenSummary (path : Path) (named : configuration.output.summary = some path)
    (fault : FileFault) :
    LateFailure configuration levels ⟨[.writing path], .file fault⟩

/-- How a run may stop without a failure that is returned: a chart of elapsed times has an
inverted range, or the points to label on an axis of an image are never found. -/
inductive Stops (configuration : Configuration) (levels : List LevelResults) : Failure → Prop
  | forRange (encoding : Encoding) (range : Range)
    (ranged : (ElapsedChart.ofLevels levels encoding configuration.elapsedChart).range =
      .ok range)
    (inverted : ¬ range.low ≤ range.high) :
    Stops configuration levels
      ⟨[.rendering (configuration.output.elapsed encoding)], .emptyRange⟩
  | endlessElapsed (encoding : Encoding) (range : Range)
    (ranged : (ElapsedChart.ofLevels levels encoding configuration.elapsedChart).range =
      .ok range)
    (never : Plot.NeverLabelled range
      ((ElapsedChart.ofLevels levels encoding configuration.elapsedChart).labels range)) :
    Stops configuration levels
      ⟨[.rendering (configuration.output.elapsed encoding)], .endlessSearch⟩
  | endlessSpeedup (chart : SpeedupChart)
    (made : SpeedupChart.ofLevels levels configuration.speedupChart = .ok chart)
    (never : Plot.NeverLabelled chart.range (chart.labels chart.range)) :
    Stops configuration levels ⟨[.rendering configuration.output.unionSpeedup], .endlessSearch⟩

/-- What ends a chart of elapsed times is a failure that is left, or a stop. -/
theorem late_of_elapsed {configuration : Configuration} {levels : List LevelResults}
    {encoding : Encoding} {style : Style} {range : Range} {cause : Cause}
    (usable : style.labelled = true → ∃ font, configuration.MayUse font)
    (ranged : (ElapsedChart.ofLevels levels encoding configuration.elapsedChart).range = .ok range)
    (own : Plot.RenderCause style range
      ((ElapsedChart.ofLevels levels encoding configuration.elapsedChart).labels range)
      [configuration.elapsedChart.majorStep, configuration.elapsedChart.minorStep] cause) :
    let failure : Failure := ⟨[.rendering (configuration.output.elapsed encoding)], cause⟩
    LateFailure configuration levels failure ∨ Stops configuration levels failure := by
  have image := configuration.output.elapsed_mem_images encoding
  cases own with
  | crowded step own => exact .inl (.crowdedElapsed encoding range step own ranged)
  | unlettered labelled typeface account reported =>
    obtain ⟨font, used⟩ := usable labelled
    exact .inl (.unlettered _ image font used typeface account reported)
  | unsaved fault => exact .inl (.unsaved _ image fault)
  | inverted unordered => exact .inr (.forRange encoding range ranged unordered)
  | endless _ never => exact .inr (.endlessElapsed encoding range ranged never)

/-- What ends the chart of speedups is a failure that is left, or an endless search. -/
theorem late_of_speedup {configuration : Configuration} {levels : List LevelResults}
    {style : Style} {chart : SpeedupChart} {cause : Cause}
    (usable : style.labelled = true → ∃ font, configuration.MayUse font)
    (made : SpeedupChart.ofLevels levels configuration.speedupChart = .ok chart)
    (own : Plot.RenderCause style
      ⟨configuration.speedupChart.low, configuration.speedupChart.high⟩
      (chart.labels ⟨configuration.speedupChart.low, configuration.speedupChart.high⟩)
      [configuration.speedupChart.majorStep, configuration.speedupChart.minorStep] cause)
    (ordered : cause ≠ .emptyRange) :
    let failure : Failure := ⟨[.rendering configuration.output.unionSpeedup], cause⟩
    LateFailure configuration levels failure ∨ Stops configuration levels failure := by
  have image := configuration.output.unionSpeedup_mem_images
  have settled : chart.range =
      ⟨configuration.speedupChart.low, configuration.speedupChart.high⟩ := by
    rw [SpeedupChart.range, ((SpeedupChart.ofLevels_eq_ok_iff _ _ _).1 made).2]
  cases own with
  | crowded step own => exact .inl (.crowdedSpeedup step own)
  | unlettered labelled typeface account reported =>
    obtain ⟨font, used⟩ := usable labelled
    exact .inl (.unlettered _ image font used typeface account reported)
  | unsaved fault => exact .inl (.unsaved _ image fault)
  | inverted => exact absurd rfl ordered
  | endless _ never =>
    rw [← settled] at never
    exact .inr (.endlessSpeedup chart made never)

omit [DrawingLibrary] in
/-- Registering a font fails if it cannot be read or is none. -/
theorem Style.registerBy_failsOnly (accepts : List UInt8 → Bool) (font : Path) :
    (registerBy accepts font).FailsOnly fun failure =>
      (∃ fault, failure = ⟨[.readingFont font], .file fault⟩) ∨
        failure = ⟨[], .invalidFont font⟩ := by
  intro workspace failure failed
  rw [Action.result, run_registerBy] at failed
  by_cases registered : isRegistered workspace.font font
  · simp [registered] at failed
  · rw [if_neg registered] at failed
    cases read : workspace.tree.read workspace.working font with
    | error fault =>
      simp only [read] at failed
      exact .inl ⟨fault, (Except.error.inj failed).symm⟩
    | ok content =>
      by_cases valid : accepts content.toBytes
      · simp [read, valid] at failed
      · simp only [read, if_neg valid] at failed
        exact .inr (Except.error.inj failed).symm

omit [DrawingLibrary] in
/-- The font that is chosen is one that may be used. -/
theorem Configuration.mayUse_of_chosen {configuration : Configuration} {isFile : Path → Bool}
    {font : Path} (chosen : (configuration.font <|> Style.knownFonts.find? isFile) = some font) :
    configuration.MayUse font := by
  cases named : configuration.font with
  | some other =>
    rw [named] at chosen
    exact .inl (named.trans chosen)
  | none =>
    rw [named] at chosen
    exact .inr ⟨named, List.mem_of_find?_eq_some chosen⟩

/-- Charts are only labelled with a font that may be used. -/
theorem Style.mayUse_of_labelled {configuration : Configuration} {workspace : Workspace}
    {style : Style} (chosen : (withFont configuration.font).result workspace = .ok style)
    (labelled : style.labelled = true) : ∃ font, configuration.MayUse font := by
  rw [Action.result, run_withFont] at chosen
  split at chosen
  · next font found => exact ⟨font, Configuration.mayUse_of_chosen found⟩
  · obtain rfl : plain = style := by simpa using chosen
    simp [plain] at labelled

/-- Choosing a style fails for the font. -/
theorem Style.withFont_failsOnly (configuration : Configuration) (levels : List LevelResults) :
    (withFont configuration.font).FailsOnly (LateFailure configuration levels) := by
  intro workspace failure failed
  rw [Action.result, run_withFont] at failed
  split at failed
  · next font chosen =>
    have used := Configuration.mayUse_of_chosen chosen
    have refused : (registerBy DrawingLibrary.accepts font).result workspace =
        .error failure := by
      rw [Action.result]
      rcases run : (registerBy DrawingLibrary.accepts font).run workspace with
        ⟨inner | _, after⟩ <;> simp_all
    rcases registerBy_failsOnly _ font workspace failure refused with ⟨fault, rfl⟩ | rfl
    · exact .unreadableFont font used fault
    · exact .invalidFont font used
  · simp at failed

namespace Output

omit [DrawingLibrary] in
/-- Writing outputs in turn fails as one of them does. -/
theorem writeAll_failsOnly {outputs : List Output} {kind : Failure → Prop}
    (each : ∀ output ∈ outputs, output.write.FailsOnly kind) :
    (writeAll outputs).FailsOnly kind := by
  induction outputs with
  | nil => exact .pure _
  | cons first rest inductionHypothesis =>
    obtain ⟨firstFails, restFails⟩ := List.forall_mem_cons.1 each
    exact firstFails.bind fun _ => inductionHypothesis restFails

section Outputs

variable {configuration : Configuration} {levels : List LevelResults}

/-- A chart of elapsed times fails to be written as it fails to be drawn or saved. -/
theorem elapsedOutput_failsOnly (filled : levels ≠ [])
    (checked : configuration.elapsedChart.check = .ok ()) {style : Style}
    (usable : style.labelled = true → ∃ font, configuration.MayUse font) (encoding : Encoding) :
    (configuration.elapsedOutput levels style encoding
      (configuration.output.elapsed encoding)).write.FailsOnly fun failure =>
        LateFailure configuration levels failure ∨ Stops configuration levels failure := by
  refine .during ((ElapsedChart.render_failsOnly filled encoding checked _ style).mono ?_)
  rintro failure ⟨range, cause, ranged, rfl, own⟩
  exact late_of_elapsed usable ranged own

/-- The chart of speedups fails to be written as it fails to be drawn or saved. -/
theorem speedupOutput_failsOnly (filled : levels ≠ [])
    (checked : configuration.speedupChart.check = .ok ()) {chart : SpeedupChart}
    (made : SpeedupChart.ofLevels levels configuration.speedupChart = .ok chart) {style : Style}
    (usable : style.labelled = true → ∃ font, configuration.MayUse font) :
    (configuration.speedupOutput levels style).write.FailsOnly fun failure =>
      LateFailure configuration levels failure ∨ Stops configuration levels failure := by
  have composed : (configuration.speedupOutput levels style).write =
      ((chart.render configuration.output.unionSpeedup style).during
        (.rendering configuration.output.unionSpeedup)) >>= fun _ =>
          Action.report (.summarized (Summary.table levels)) := by
    simp only [Configuration.speedupOutput, made]
    rfl
  rw [composed]
  refine .bind (.during ((SpeedupChart.render_failsOnly filled checked made _ style).mono ?_))
    fun _ => .report _
  rintro failure ⟨cause, rfl, own, ordered⟩
  exact late_of_speedup usable made own ordered

/-- The summary fails to be written for its file. -/
theorem summary_failsOnly {path : Path} (named : configuration.output.summary = some path) :
    (Summary.output levels path).write.FailsOnly (LateFailure configuration levels) := by
  intro workspace failure failed
  rw [Action.result, run_summary] at failed
  cases reached : workspace.tree.target workspace.working path with
  | error fault =>
    simp only [reached] at failed
    exact Except.error.inj failed ▸ .unwrittenSummary path named fault
  | ok location => simp [reached] at failed

/-- Everything that a run writes for loaded levels fails in one of the ways that are left. -/
theorem outputs_failsOnly (filled : levels ≠ [])
    (elapsedChecked : configuration.elapsedChart.check = .ok ())
    (speedupChecked : configuration.speedupChart.check = .ok ()) {chart : SpeedupChart}
    (made : SpeedupChart.ofLevels levels configuration.speedupChart = .ok chart) {style : Style}
    (usable : style.labelled = true → ∃ font, configuration.MayUse font) :
    ∀ output ∈ configuration.outputs levels style, output.write.FailsOnly fun failure =>
      LateFailure configuration levels failure ∨ Stops configuration levels failure := by
  intro output member
  rcases List.mem_append.1 member with image | written
  · simp only [Configuration.images, List.mem_cons, List.not_mem_nil, or_false] at image
    rcases image with rfl | rfl | rfl
    · exact elapsedOutput_failsOnly filled elapsedChecked usable .register
    · exact elapsedOutput_failsOnly filled elapsedChecked usable .stack
    · exact speedupOutput_failsOnly filled speedupChecked made usable
  · obtain ⟨path, named, rfl⟩ := List.mem_map.1 written
    exact (summary_failsOnly (Option.mem_toList.1 named)).mono fun _ => .inl

end Outputs

end Output

/-- What is left to fail is not ruled out. -/
theorem isPossible_of_late {configuration : Configuration} {levels : List LevelResults}
    {failure : Failure}
    (late : LateFailure configuration levels failure ∨
      Stops configuration levels failure) : failure.IsPossible := by
  rcases late with late | stops
  · cases late <;> rfl
  · cases stops <;> rfl

/-- A run that cannot load its levels fails as loading does. -/
theorem generateAll_of_unloaded {configuration : Configuration}
    (checked : configuration.check = .ok ()) {before : Workspace} {failure : Failure}
    (unloaded : (loadLevels configuration).result before = .error failure) :
    (generateAll configuration).result before = .error failure := by
  have prepared := result_prepare configuration before
  rw [checked, unloaded] at prepared
  exact (generateAll_of_unprepared prepared).1

/-- A run that has loaded its levels fails for the font or for an output. -/
theorem late_of_loaded {configuration : Configuration} (checked : configuration.check = .ok ())
    {before : Workspace} {levels : List LevelResults}
    (loaded : (loadLevels configuration).result before = .ok levels) {failure : Failure}
    (failed : (generateAll configuration).result before = .error failure) :
    LateFailure configuration levels failure ∨ Stops configuration levels failure := by
  obtain ⟨named, elapsedChecked, speedupChecked⟩ := configuration.check_eq_ok_iff.1 checked
  have filled := ne_nil_of_loadLevels loaded named
  have prepared := result_prepare configuration before
  rw [checked, loaded] at prepared
  cases chosen : (Style.withFont configuration.font).result before with
  | error fontless =>
    rw [chosen] at prepared
    obtain rfl : fontless = failure :=
      Except.error.inj ((generateAll_of_unprepared prepared).1.symm.trans failed)
    exact .inl (Style.withFont_failsOnly configuration levels before fontless chosen)
  | ok style =>
    rw [chosen] at prepared
    rw [(generateAll_of_prepared prepared).1, map_eq_error_iff] at failed
    obtain ⟨chart, made, -⟩ := SpeedupChart.exists_ofLevels (compared_of_loadLevels loaded)
      configuration.speedupChart
    exact Output.writeAll_failsOnly
      (Output.outputs_failsOnly filled elapsedChecked speedupChecked made
        (Style.mayUse_of_labelled chosen)) _ failure failed

/-- A run of an accepted configuration never fails because of settings, because there is nothing
to plot, for a speedup that is missing or stored twice, or for a grid step. Once its levels are
loaded, their chart of speedups is made, and drawing it never stops for its range. Whatever then
fails is the font, the number of gridlines in a range, a text or a legend that the library does
not draw, saving a picture or writing the summary, and all circumstances are named. Only an
inverted range of a chart of elapsed times or an endless search of the library may stop the run
in another way. -/
theorem failures_of_accepted {configuration : Configuration}
    (checked : configuration.check = .ok ()) (before : Workspace) :
    (∀ failure, (generateAll configuration).result before = .error failure →
      failure.IsPossible) ∧
    ∀ levels, (loadLevels configuration).result before = .ok levels →
      (∃ chart, SpeedupChart.ofLevels levels configuration.speedupChart = .ok chart ∧
        ∀ path style, (chart.render path style).FailsOnly fun failure =>
          failure.IsPossible ∧ failure.cause ≠ .emptyRange) ∧
      ∀ failure, (generateAll configuration).result before = .error failure →
        LateFailure configuration levels failure ∨ Stops configuration levels failure := by
  refine ⟨?_, ?_⟩
  · intro failure failed
    cases loaded : (loadLevels configuration).result before with
    | error inner =>
      obtain rfl : inner = failure :=
        Except.error.inj ((generateAll_of_unloaded checked loaded).symm.trans failed)
      exact loadLevels_failsOnly configuration before inner loaded
    | ok levels => exact isPossible_of_late (late_of_loaded checked loaded failed)
  · intro levels loaded
    obtain ⟨named, -, speedupChecked⟩ := configuration.check_eq_ok_iff.1 checked
    obtain ⟨chart, made, -⟩ := SpeedupChart.exists_ofLevels (compared_of_loadLevels loaded)
      configuration.speedupChart
    refine ⟨⟨chart, made, fun path style => ?_⟩, fun failure => late_of_loaded checked loaded⟩
    refine (SpeedupChart.render_failsOnly (ne_nil_of_loadLevels loaded named) speedupChecked made
      path style).mono ?_
    rintro failure ⟨cause, rfl, own, ordered⟩
    exact ⟨own.isPossible, ordered⟩

end

/-- A run over one level whose chart of speedups has more gridlines than it can hold fails for
them, though everything is loaded. -/
theorem failures_of_accepted_crowded :
    let configuration : Configuration :=
      { Configuration.oneLevel with speedupChart := { minorStep := 1e-5 } }
    ∃ levels failure, (loadLevels configuration).result .oneLevel = .ok levels ∧
      (generateAll configuration).result .oneLevel = .error failure ∧
      failure.IsPossible ∧
      (LateFailure configuration levels failure ∨ Stops configuration levels failure) := by
  intro configuration
  obtain ⟨_, checked⟩ : ∃ done, configuration.check = .ok done :=
    exists_of_isOk (by decide +kernel)
  obtain ⟨levels, loaded⟩ : ∃ levels, (loadLevels configuration).result .oneLevel = .ok levels :=
    exists_of_isOk (by decide +kernel)
  have fails : ((generateAll configuration).result .oneLevel).isOk = false := by decide +kernel
  cases failed : (generateAll configuration).result .oneLevel with
  | ok _ => simp [failed, Except.isOk, Except.toBool] at fails
  | error failure =>
    obtain ⟨possible, late⟩ := failures_of_accepted checked .oneLevel
    exact ⟨levels, failure, loaded, rfl, possible failure failed,
      (late levels loaded).2 failure failed⟩

end BenchFigures
