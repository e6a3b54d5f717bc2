import BenchFigures.Chart.BlankLibrary
import BenchFigures.Proofs.Charts
import BenchFigures.Proofs.Loading
import BenchFigures.Proofs.Rounding

/-!
# Ranges of charts of elapsed times

The range of a chart is anchored at two averages if that leaves room for bars, and
covers all minima and averages otherwise. Grids are refused where an end of the range
has no value, so the bars of a chart are only drawn between numbers. These may still be
in the wrong order: rounding can put every average below every minimum.
-/

namespace BenchFigures

/-- A grid is only drawn between ends that have values. -/
theorem Grid.isFinite_of_bounds {name : String} {step : Float}
    (accepted : Configuration.checkStep name step = .ok ()) {low high : Float} {ends : Int × Int}
    (bounded : Grid.bounds low high step = .ok ends) :
    Binary64.isFinite low ∧ Binary64.isFinite high := by
  rw [Grid.bounds_of_checkStep accepted] at bounded
  have valued {number : Float} {integer : Int} {rounding : Rat → Int}
      (held : (Binary64.value? number).map rounding = some integer) :
      Binary64.isFinite number := by
    obtain ⟨value, known, -⟩ := Option.map_eq_some_iff.1 held
    simp [Binary64.isFinite, known]
  cases above : Scalar.ceil? (low / step - tolerance) with
  | none => simp [above] at bounded
  | some first =>
    cases below : Scalar.floor? (high / step + tolerance) with
    | none => simp [above, below] at bounded
    | some last =>
      exact ⟨Binary64.isFinite_of_div (Binary64.isFinite_of_sub (valued above)),
        Binary64.isFinite_of_div (Binary64.isFinite_of_add (valued below))⟩

/-- No grid of a range is refused exactly if both are drawn. -/
theorem Sketch.gridsRefusal?_eq_none_iff (range : Range) (major minor : Float) :
    gridsRefusal? range major minor = none ↔
      (∃ ends, Grid.bounds range.low range.high minor = .ok ends) ∧
        ∃ ends, Grid.bounds range.low range.high major = .ok ends := by
  rw [gridsRefusal?, Option.or_eq_none_iff, gridRefusal?_eq_none_iff, gridRefusal?_eq_none_iff]

namespace ElapsedChart

/-- The range between the union averages of the last and of the first level. -/
def anchored (levels : List LevelResults) (filled : levels ≠ []) (encoding : Encoding)
    (margin : Float) : Range :=
  ⟨((levels.getLast filled).get ⟨.union, encoding⟩).average - margin,
    ((levels.head filled).get ⟨.union, encoding⟩).average + margin⟩

/-- The aggregates that are shown for an encoding. -/
def shown (levels : List LevelResults) (encoding : Encoding) : List (Aggregate Float) :=
  levels.flatMap fun results => [results.get ⟨.bitmask, encoding⟩, results.get ⟨.union, encoding⟩]

/-- The range of all minima and averages. -/
def covering (levels : List LevelResults) (encoding : Encoding) (margin : Float) : Range :=
  ⟨Scalar.least ((shown levels encoding).map Aggregate.minimum) - margin,
    Scalar.greatest ((shown levels encoding).map Aggregate.average) + margin⟩

/-- The range of a chart of levels is anchored if that leaves room, and covers everything
otherwise. -/
theorem range_ofLevels {levels : List LevelResults} (filled : levels ≠ []) (encoding : Encoding)
    (settings : ElapsedSettings) :
    (ofLevels levels encoding settings).range =
      .ok (if (anchored levels filled encoding settings.margin).low <
          (anchored levels filled encoding settings.margin).high
        then anchored levels filled encoding settings.margin
        else covering levels encoding settings.margin) := by
  have covers : ElapsedGroup.covering (ofLevels levels encoding settings).groups settings.margin =
      ((covering levels encoding settings.margin).low,
        (covering levels encoding settings.margin).high) := by
    simp only [ElapsedGroup.covering, ofLevels, List.flatMap_map]
    rfl
  have first : (ofLevels levels encoding settings).groups.head? =
      some ⟨(levels.head filled).level.flag, (levels.head filled).get ⟨.bitmask, encoding⟩,
        (levels.head filled).get ⟨.union, encoding⟩⟩ := by
    simp only [ofLevels, List.head?_map, List.head?_eq_some_head filled, Option.map_some]
  have last : (ofLevels levels encoding settings).groups.getLast? =
      some ⟨(levels.getLast filled).level.flag,
        (levels.getLast filled).get ⟨.bitmask, encoding⟩,
        (levels.getLast filled).get ⟨.union, encoding⟩⟩ := by
    simp only [ofLevels, List.getLast?_map, List.getLast?_eq_some_getLast filled, Option.map_some]
  have settled : (ofLevels levels encoding settings).settings = settings := rfl
  simp only [range, ElapsedGroup.range?, first, last, settled, covers]
  by_cases increasing : (anchored levels filled encoding settings.margin).low <
      (anchored levels filled encoding settings.margin).high
  · have room : Scalar.lt (anchored levels filled encoding settings.margin).low
        (anchored levels filled encoding settings.margin).high = true := decide_eq_true increasing
    rw [if_pos increasing]
    simp only [anchored] at room
    simp only [ElapsedGroup.anchored, room]
    rfl
  · have none : Scalar.lt (anchored levels filled encoding settings.margin).low
        (anchored levels filled encoding settings.margin).high = false :=
      decide_eq_false increasing
    rw [if_neg increasing]
    simp only [anchored] at none
    simp only [ElapsedGroup.anchored, none]
    rfl

/-- Both grids of a range are drawn, so that a chart whose labels are drawn goes on to its bars. -/
def ReachesBars (settings : ElapsedSettings) (range : Range) : Prop :=
  (∃ ends, Grid.bounds range.low range.high settings.minorStep = .ok ends) ∧
    ∃ ends, Grid.bounds range.low range.high settings.majorStep = .ok ends

/-- Bars are only drawn between ends that have values. -/
theorem ReachesBars.isFinite {settings : ElapsedSettings} {range : Range}
    (reached : ReachesBars settings range) (checked : settings.check = .ok ()) :
    Binary64.isFinite range.low ∧ Binary64.isFinite range.high := by
  obtain ⟨-, -, -, accepted⟩ := (ElapsedSettings.check_eq_ok_iff settings).1 checked
  obtain ⟨⟨ends, bounded⟩, -⟩ := reached
  exact Grid.isFinite_of_bounds accepted bounded

/-- A chart fails for an empty range exactly if its labels and its grids are drawn and its range
has no points. -/
theorem render_emptyRange_iff [DrawingLibrary] {chart : ElapsedChart}
    (checked : chart.settings.check = .ok ()) {range : Range} (ranged : chart.range = .ok range)
    (path : Path) (style : Style) (before : Workspace) :
    (∃ failure, (chart.render path style).result before = .error failure ∧
        failure.cause = .emptyRange) ↔
      chart.labelFailure? style before.typeface range = none ∧
        ReachesBars chart.settings range ∧ ¬ range.low ≤ range.high := by
  let drawing := chart.drawing style before.typeface range
  have begun := (chart.sketch_eq_ok_iff style before.typeface _).2 ⟨checked, range, ranged, rfl⟩
  have saved : (chart.render path style).result before =
      (drawing.save chart.settings.width chart.settings.height path).result before := by
    rw [result_render, renderWith, begun]
    rfl
  have stops : drawing.failure = _ := failure_drawing (exists_range_iff.1 ⟨range, ranged⟩)
  have run := drawing.run_save chart.settings.width chart.settings.height path before
  rw [saved, Action.result, ReachesBars, ← Sketch.gridsRefusal?_eq_none_iff]
  constructor
  · rintro ⟨failure, failed, empty⟩
    cases stopped : drawing.failure with
    | none =>
      simp only [stopped] at run
      rcases run with ⟨fault, run⟩ | ⟨run, -⟩
      · rw [run] at failed
        obtain rfl : (Cause.drawing (.saving fault)).failure = failure := by simpa using failed
        simp [Cause.failure] at empty
      · simp [run] at failed
    | some cause =>
      simp only [stopped] at run
      rw [run] at failed
      obtain rfl : cause.failure = failure := by simpa using failed
      obtain rfl : cause = .emptyRange := empty
      rw [stops] at stopped
      simp only [Option.or_eq_some_iff] at stopped
      rcases stopped with inLabels | ⟨labels, inGrids | ⟨grids, inBars | ⟨-, inLegend⟩⟩⟩
      · obtain ⟨-, own⟩ := Plot.labelCause_of_labelFailure? inLabels
        cases own
      · obtain ⟨-, -, majorAccepted, minorAccepted⟩ :=
          (ElapsedSettings.check_eq_ok_iff _).1 checked
        obtain ⟨step, other⟩ :=
          Sketch.gridsRefusal?_of_checkStep majorAccepted minorAccepted inGrids
        simp at other
      · refine ⟨labels, grids, ?_⟩
        intro ordered
        simp [ordered] at inBars
      · obtain ⟨-, account, -, other⟩ := Plot.failure_legend inLegend
        simp at other
  · rintro ⟨labels, grids, empty⟩
    have stopped : drawing.failure = some .emptyRange := by
      rw [stops, labels, grids, if_neg empty]
      rfl
    simp only [stopped] at run
    exact ⟨_, by rw [run], rfl⟩

/-- The range of all minima and averages is only inverted if every average is below every
minimum, not counting those that are no numbers. -/
theorem average_lt_minimum_of_inverted {levels : List LevelResults} {encoding : Encoding}
    {margin : Float} (finite : Binary64.isFinite margin) (nonnegative : ¬ margin < 0.0)
    (inverted : (covering levels encoding margin).high < (covering levels encoding margin).low)
    {aggregate other : Aggregate Float} (member : aggregate ∈ shown levels encoding)
    (otherMember : other ∈ shown levels encoding) (valued : aggregate.average.isNaN = false)
    (otherValued : other.minimum.isNaN = false) : aggregate.average < other.minimum := by
  obtain ⟨greatest, below⟩ := Binary64.le_greatest (List.mem_map_of_mem member) valued
  obtain ⟨least, above⟩ := Binary64.least_le (List.mem_map_of_mem otherMember) otherValued
  have raised := Binary64.le_add greatest finite nonnegative
  have lowered := Binary64.sub_le least finite nonnegative
  obtain ⟨high, low⟩ := Binary64.isNaN_eq_false_of_lt inverted
  rw [Binary64.lt_iff_rank valued otherValued]
  calc Binary64.rank (Binary64.unpack aggregate.average)
      ≤ Binary64.rank (Binary64.unpack (covering levels encoding margin).high) :=
        ((Binary64.le_iff_rank valued greatest).1 below).trans
          ((Binary64.le_iff_rank greatest high).1 raised)
    _ < Binary64.rank (Binary64.unpack (covering levels encoding margin).low) :=
        (Binary64.lt_iff_rank high low).1 inverted
    _ ≤ Binary64.rank (Binary64.unpack other.minimum) :=
        ((Binary64.le_iff_rank low least).1 lowered).trans
          ((Binary64.le_iff_rank least otherValued).1 above)

/-- The bars of a chart are only ever drawn between two numbers. Drawing them fails exactly
if the range that is anchored at averages has no room, the labels of the chart, if it has
any, and both grids of the range of all minima and averages are drawn, and that range is
inverted. For that, every average has to be below every minimum. -/
theorem render_stops_iff_inverted [DrawingLibrary] {levels : List LevelResults}
    (filled : levels ≠ []) (encoding : Encoding) {settings : ElapsedSettings}
    (checked : settings.check = .ok ())
    (path : Path) (style : Style) (before : Workspace) :
    let chart := ofLevels levels encoding settings
    let anchor := anchored levels filled encoding settings.margin
    let cover := covering levels encoding settings.margin
    (∀ range, chart.range = .ok range → ReachesBars settings range →
      range.low.isNaN = false ∧ range.high.isNaN = false) ∧
    ((∃ failure, (chart.render path style).result before = .error failure ∧
        failure.cause = .emptyRange) ↔
      ¬ anchor.low < anchor.high ∧ chart.labelFailure? style before.typeface cover = none ∧
        ReachesBars settings cover ∧ cover.high < cover.low) ∧
    (cover.high < cover.low → ∀ aggregate ∈ shown levels encoding,
      ∀ other ∈ shown levels encoding, aggregate.average.isNaN = false →
        other.minimum.isNaN = false → aggregate.average < other.minimum) := by
  intro chart anchor cover
  have ranged := range_ofLevels filled encoding settings
  refine ⟨?_, ?_, ?_⟩
  · intro range _ reached
    obtain ⟨low, high⟩ := reached.isFinite checked
    exact ⟨Binary64.isNaN_eq_false low, Binary64.isNaN_eq_false high⟩
  · have accepted : chart.settings.check = .ok () := checked
    rw [render_emptyRange_iff accepted ranged path style before]
    by_cases increasing : anchor.low < anchor.high
    · rw [if_pos increasing]
      simp only [increasing, not_true_eq_false, false_and, iff_false, not_and, not_not]
      intro _ _
      exact Binary64.le_of_lt increasing
    · rw [if_neg increasing]
      simp only [increasing, not_false_eq_true, true_and]
      refine and_congr_right fun _ => and_congr_right ?_
      intro reached
      obtain ⟨low, high⟩ := reached.isFinite checked
      exact Binary64.not_le_iff_lt (Binary64.isNaN_eq_false high) (Binary64.isNaN_eq_false low)
  · obtain ⟨-, ⟨finite, nonnegative⟩, -⟩ := (ElapsedSettings.check_eq_ok_iff settings).1 checked
    intro inverted aggregate member other otherMember valued otherValued
    exact average_lt_minimum_of_inverted finite nonnegative inverted member otherMember valued
      otherValued

/-- The results of a level where every variant was measured ten times, each time with a tenth
of a millisecond. -/
def tenths : LevelResults :=
  let sample : Sample Float := ⟨List.replicate 10 ⟨1, 0.1, 0.0⟩, by simp⟩
  LevelResults.ofSamples .O0 (.ofFunction fun _ => sample)

/-- Settings without a margin. -/
def marginless : ElapsedSettings := { width := 160, height := 120, margin := 0.0 }

/-- The bars of this chart have no range: the average of ten tenths is rounded to less than a
tenth. -/
theorem render_stops_tenths :
    let before : Workspace := ⟨.empty, [], none, []⟩
    let chart := ofLevels [tenths] .register marginless
    ∃ failure, (chart.render ⟨"out.png"⟩ .plain).result before = .error failure ∧
      failure.cause = .emptyRange := by
  intro before chart
  obtain ⟨_, checked⟩ : ∃ done, marginless.check = .ok done := exists_of_isOk (by decide +kernel)
  have noRoom : ¬ (anchored [tenths] (by simp) .register marginless.margin).low <
      (anchored [tenths] (by simp) .register marginless.margin).high := by decide +kernel
  have reached : ReachesBars marginless (covering [tenths] .register marginless.margin) :=
    ⟨exists_of_isOk (by decide +kernel), exists_of_isOk (by decide +kernel)⟩
  have inverted : (covering [tenths] .register marginless.margin).high <
      (covering [tenths] .register marginless.margin).low := by decide +kernel
  exact (render_stops_iff_inverted (by simp) .register checked ⟨"out.png"⟩ .plain before).2.1.2
    ⟨noRoom, Plot.labelFailure?_of_plain _ rfl _ _ _, reached, inverted⟩

/-- Accepted settings and measured levels do not rule out that drawing a chart fails for an
empty range. -/
theorem not_render_never_stops :
    ¬ ∀ (measured : List (OptimizationLevel × PerVariant (Sample Float))) (encoding : Encoding)
        (settings : ElapsedSettings) (path : Path) (style : Style) (before : Workspace)
        (failure : Failure),
      measured ≠ [] → settings.check = .ok () →
      ((ofLevels (measured.map fun (level, samples) => LevelResults.ofSamples level samples)
        encoding settings).render path style).result before = .error failure →
      failure.cause ≠ .emptyRange := by
  intro never
  let measured : List (OptimizationLevel × PerVariant (Sample Float)) :=
    [(.O0, .ofFunction fun _ => ⟨List.replicate 10 ⟨1, 0.1, 0.0⟩, by simp⟩)]
  let chart := ofLevels (measured.map fun (level, samples) =>
    LevelResults.ofSamples level samples) .register marginless
  let before : Workspace := ⟨.empty, [], none, []⟩
  obtain ⟨_, checked⟩ : ∃ done, marginless.check = .ok done := exists_of_isOk (by decide +kernel)
  have stops : (match (chart.render ⟨"out.png"⟩ .plain).result before with
      | .error ⟨_, .emptyRange⟩ => true
      | _ => false) = true := by decide +kernel
  cases failed : (chart.render ⟨"out.png"⟩ .plain).result before with
  | ok _ => simp [failed] at stops
  | error failure =>
    have other := never measured .register marginless ⟨"out.png"⟩ .plain before failure
      (by simp [measured]) checked failed
    obtain ⟨contexts, cause⟩ := failure
    rw [failed] at stops
    cases cause <;> simp_all

end ElapsedChart

end BenchFigures
