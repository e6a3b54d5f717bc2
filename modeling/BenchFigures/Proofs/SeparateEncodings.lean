import BenchFigures.Chart.BlankLibrary
import BenchFigures.Proofs.Charts
import BenchFigures.Proofs.ResultRows

/-!
# The encodings do not mix

What is shown for one encoding follows from the bytes of the result files of that encoding.
The files of the other encoding have no influence on it, be it through a baseline, a range
or a bar, and neither has the name of a file or where the results lie.

So two runs that find the same bytes for an encoding have the same statistics for it, draw
the same chart of elapsed times and show the same speedups. A labelled chart shows its font,
too, which must be the same in both.
-/

namespace BenchFigures

open ResultFile

/-! ### From bytes to statistics -/

/-- The bytes of the only result file in a directory. -/
def Workspace.resultBytes? (workspace : Workspace) (directory : Path) : Option (List UInt8) :=
  match (ResultDirectory.findFile directory).result workspace with
  | .ok file => workspace.fileBytes? file
  | .error _ => none

/-- Bytes hold the runs of one sample at most. -/
theorem Sample.eq_of_holds {bytes : List UInt8} {sample other : Sample Float}
    (holds : Holds bytes sample.runs) (otherHolds : Holds bytes other.runs) : sample = other := by
  have same := ((runs_eq_ok_iff ⟨""⟩ bytes _).2 holds).symm.trans
    ((runs_eq_ok_iff ⟨""⟩ bytes _).2 otherHolds)
  obtain ⟨runs, filled⟩ := sample
  obtain ⟨otherRuns, otherFilled⟩ := other
  obtain rfl : runs = otherRuns := Except.ok.inj same
  rfl

namespace LevelResults

/-- The sample of a variant is in the bytes of its result file. -/
theorem Provides.holds {workspace : Workspace} {directory file : Path} {variant : Variant}
    {sample : Sample Float} (provided : Provides workspace directory variant file sample) :
    ∃ bytes, workspace.resultBytes? (directory.child variant.directoryName) = some bytes ∧
      Holds bytes sample.runs := by
  obtain ⟨bytes, read, holds⟩ :=
    (result_read_eq_ok_iff file workspace sample).1 provided.readable
  have found := (ResultDirectory.result_findFile_eq_ok_iff _ file workspace).2 provided.only
  exact ⟨bytes, by rw [Workspace.resultBytes?, found]; exact read, holds⟩

/-- Two results are of the same level and have the same statistics for an encoding. -/
structure Agree (encoding : Encoding) (results others : LevelResults) : Prop where
  level_eq : results.level = others.level
  get_eq (decoding : Decoding) : results.get ⟨decoding, encoding⟩ = others.get ⟨decoding, encoding⟩

/-- Statistics of an encoding, the speedup among them, are made from samples of it. -/
theorem agree_ofSamples {level : OptimizationLevel} {samples others : PerVariant (Sample Float)}
    {encoding : Encoding} (same : ∀ decoding : Decoding,
      samples.get ⟨decoding, encoding⟩ = others.get ⟨decoding, encoding⟩) :
    Agree encoding (ofSamples level samples) (ofSamples level others) := by
  refine ⟨rfl, ?_⟩
  intro decoding
  simp only [get, ofSamples, PerVariant.get_ofFunction, same]

/-- Where a level is loaded from the same bytes for an encoding, the results agree. -/
theorem agree_of_load {level : OptimizationLevel} {directory otherDirectory : Path}
    {workspace other : Workspace} {results others : LevelResults} {encoding : Encoding}
    (loaded : (load level directory).result workspace = .ok results)
    (otherLoaded : (load level otherDirectory).result other = .ok others)
    (same : ∀ decoding,
      workspace.resultBytes? (directory.child (Variant.mk decoding encoding).directoryName) =
        other.resultBytes? (otherDirectory.child (Variant.mk decoding encoding).directoryName)) :
    Agree encoding results others := by
  obtain ⟨files, samples, provided, rfl⟩ := (load_eq_ok_iff level directory workspace _).1 loaded
  obtain ⟨otherFiles, otherSamples, otherProvided, rfl⟩ :=
    (load_eq_ok_iff level otherDirectory other _).1 otherLoaded
  apply agree_ofSamples
  intro decoding
  obtain ⟨bytes, found, holds⟩ := (provided ⟨decoding, encoding⟩).holds
  obtain ⟨otherBytes, otherFound, otherHolds⟩ := (otherProvided ⟨decoding, encoding⟩).holds
  obtain rfl : bytes = otherBytes :=
    Option.some.inj (found.symm.trans ((same decoding).trans otherFound))
  exact Sample.eq_of_holds holds otherHolds

/-- Loaded results have speedups to show. -/
theorem group_of_load {level : OptimizationLevel} {directory : Path} {workspace : Workspace}
    {results : LevelResults} (loaded : (load level directory).result workspace = .ok results) :
    ∃ group, SpeedupChart.group results = .ok group := by
  obtain ⟨files, samples, -, rfl⟩ := (load_eq_ok_iff level directory workspace _).1 loaded
  exact ⟨_, rfl⟩

end LevelResults

/-- Where all levels are loaded from the same bytes for an encoding, their results agree. -/
theorem forall₂_agree_of_loadLevels {configuration other : Configuration}
    {workspace otherWorkspace : Workspace} {levels others : List LevelResults} {encoding : Encoding}
    (sameLevels : other.levels = configuration.levels)
    (loaded : (loadLevels configuration).result workspace = .ok levels)
    (otherLoaded : (loadLevels other).result otherWorkspace = .ok others)
    (same : ∀ level ∈ configuration.levels, ∀ decoding,
      let directory := (Variant.mk decoding encoding).directoryName
      workspace.resultBytes? ((configuration.levelDirectory level).child directory) =
        otherWorkspace.resultBytes? ((other.levelDirectory level).child directory)) :
    List.Forall₂ (LevelResults.Agree encoding) levels others := by
  rw [result_loadLevels, mapM_eq_ok_iff] at loaded otherLoaded
  rw [sameLevels] at otherLoaded
  generalize configuration.levels = list at loaded otherLoaded same
  induction loaded generalizing others with
  | nil =>
    obtain rfl := List.forall₂_nil_left_iff.1 otherLoaded
    exact .nil
  | cons loadedHere _ inductionHypothesis =>
    obtain ⟨otherResults, rest, otherHere, otherRest, rfl⟩ :=
      List.forall₂_cons_left_iff.1 otherLoaded
    obtain ⟨sameHere, sameRest⟩ := List.forall_mem_cons.1 same
    exact .cons (LevelResults.agree_of_load loadedHere otherHere sameHere)
      (inductionHypothesis otherRest sameRest)

/-! ### From statistics to charts -/

/-- The chart of elapsed times with an encoding shows no more than the statistics of it. -/
theorem ElapsedChart.ofLevels_congr {levels others : List LevelResults} {encoding : Encoding}
    (agree : List.Forall₂ (LevelResults.Agree encoding) levels others)
    (settings : ElapsedSettings) :
    ofLevels levels encoding settings = ofLevels others encoding settings := by
  rw [ofLevels, ofLevels]
  congr 1
  induction agree with
  | nil => rfl
  | cons here _ inductionHypothesis =>
    simp only [List.map_cons, inductionHypothesis, here.level_eq, here.get_eq]

/-- A chart that is saved once is saved wherever there is a place for its file and, if it has
labels, their font is the registered one. Its file is the same. -/
theorem ElapsedChart.render_again [DrawingLibrary] {chart : ElapsedChart} {path : Path}
    {style : Style} {workspace other : Workspace} {location : Location}
    (sameFont : style.labelled = true → other.typeface = workspace.typeface)
    (reached : other.tree.target other.working path = .ok location)
    (saved : (chart.render path style).result workspace = .ok ()) :
    (chart.render path style).result other = .ok () ∧
      ((chart.render path style).run other).2.fileBytes? path =
        ((chart.render path style).run workspace).2.fileBytes? path := by
  rw [Action.result, run_render, run_render, chart.renderWith_congr sameFont]
  rw [result_render] at saved
  obtain ⟨place, content, found, deposits⟩ :=
    Sketch.deposits_draw (chart.sketch style workspace.typeface) saved
  have again : ∀ typeface, (chart.renderWith workspace.typeface path style).Deposits typeface path
      content [.saved path] := deposits
  exact ⟨congrArg Prod.fst (again _ other location rfl reached),
    ((again _).fileBytes? reached).trans ((again _).fileBytes? found).symm⟩

/-- The speedup of a category with an encoding. -/
def SpeedupGroup.value (group : SpeedupGroup) : Encoding → Float
  | .register => group.register
  | .stack => group.stack

namespace SpeedupChart

/-- The speedup that a category shows for an encoding is the one stored with it. -/
theorem speedup_of_group {results : LevelResults} {own : SpeedupGroup}
    (grouped : group results = .ok own) (encoding : Encoding) :
    speedup (results.get ⟨.union, encoding⟩) results.level encoding =
      .ok (own.value encoding) := by
  have unfolded : group results =
      (speedup results.aggregates.unionRegister results.level .register).bind fun register =>
        (speedup results.aggregates.unionStack results.level .stack).bind fun stack =>
          .ok { label := results.level.flag, register, stack } := rfl
  rw [unfolded] at grouped
  simp only [bind_eq_ok_iff] at grouped
  obtain ⟨register, ownRegister, stack, ownStack, same⟩ := grouped
  obtain rfl := Except.ok.inj same
  cases encoding with
  | register => exact results.unionRegister_eq_get ▸ ownRegister
  | stack => exact results.unionStack_eq_get ▸ ownStack

/-- Results that agree for an encoding have the same speedup with it. -/
theorem speedup_congr {results others : LevelResults} {encoding : Encoding}
    (agree : LevelResults.Agree encoding results others) :
    speedup (results.get ⟨.union, encoding⟩) results.level encoding =
      speedup (others.get ⟨.union, encoding⟩) others.level encoding := by
  rw [agree.get_eq, agree.level_eq]

/-- A chart of speedups is made if every level has its speedups, with a category for each. -/
theorem exists_ofLevels {levels : List LevelResults}
    (compared : ∀ results ∈ levels, ∃ own, group results = .ok own) (settings : SpeedupSettings) :
    ∃ chart, ofLevels levels settings = .ok chart ∧
      List.Forall₂ (fun results own => group results = .ok own) levels chart.groups := by
  obtain ⟨groups, grouped⟩ := (exists_mapM_eq_ok_iff _ _).2 compared
  refine ⟨⟨groups, settings⟩, ?_, (mapM_eq_ok_iff _ _ _).1 grouped⟩
  rw [ofLevels, grouped]
  rfl

/-- Where results agree for an encoding, the speedups shown for it are the same. -/
theorem map_value_congr {levels others : List LevelResults} {groups otherGroups : List SpeedupGroup}
    {encoding : Encoding} (agree : List.Forall₂ (LevelResults.Agree encoding) levels others)
    (grouped : List.Forall₂ (fun results own => group results = .ok own) levels groups)
    (otherGrouped :
      List.Forall₂ (fun results own => group results = .ok own) others otherGroups) :
    groups.map (·.value encoding) = otherGroups.map (·.value encoding) := by
  induction agree generalizing groups otherGroups with
  | nil =>
    obtain rfl := List.forall₂_nil_left_iff.1 grouped
    obtain rfl := List.forall₂_nil_left_iff.1 otherGrouped
    rfl
  | cons here _ inductionHypothesis =>
    obtain ⟨own, rest, ownGrouped, restGrouped, rfl⟩ := List.forall₂_cons_left_iff.1 grouped
    obtain ⟨otherOwn, otherRest, otherOwnGrouped, otherRestGrouped, rfl⟩ :=
      List.forall₂_cons_left_iff.1 otherGrouped
    have same : own.value encoding = otherOwn.value encoding := by
      have shown := speedup_of_group ownGrouped encoding
      rw [speedup_congr here, speedup_of_group otherOwnGrouped] at shown
      exact (Except.ok.inj shown).symm
    rw [List.map_cons, List.map_cons, same, inductionHypothesis restGrouped otherRestGrouped]

end SpeedupChart

/-- Loaded levels have speedups to show. -/
theorem compared_of_loadLevels {configuration : Configuration} {workspace : Workspace}
    {levels : List LevelResults}
    (loaded : (loadLevels configuration).result workspace = .ok levels) :
    ∀ results ∈ levels, ∃ own, SpeedupChart.group results = .ok own := by
  rw [result_loadLevels, mapM_eq_ok_iff] at loaded
  generalize configuration.levels = list at loaded
  induction loaded with
  | nil => simp
  | cons loadedHere _ inductionHypothesis =>
    exact List.forall_mem_cons.2 ⟨LevelResults.group_of_load loadedHere, inductionHypothesis⟩

/-- Two runs over the same levels that find the same bytes in the result files of an encoding,
wherever these are and whatever is found for the other encoding, have the same statistics of
that encoding. They draw the same chart of elapsed times with it: the same categories, the
same range, the same drawing in every style and font and, if it is saved, the same file, for
a labelled chart if the same font is registered. And they show the same speedups for it. -/
theorem encodings_separate [DrawingLibrary] {configuration other : Configuration}
    {workspace otherWorkspace : Workspace} {levels others : List LevelResults}
    (encoding : Encoding) (sameLevels : other.levels = configuration.levels)
    (loaded : (loadLevels configuration).result workspace = .ok levels)
    (otherLoaded : (loadLevels other).result otherWorkspace = .ok others)
    (same : ∀ level ∈ configuration.levels, ∀ decoding,
      let directory := (Variant.mk decoding encoding).directoryName
      workspace.resultBytes? ((configuration.levelDirectory level).child directory) =
        otherWorkspace.resultBytes? ((other.levelDirectory level).child directory)) :
    List.Forall₂ (LevelResults.Agree encoding) levels others ∧
    (∀ settings,
      let chart := ElapsedChart.ofLevels levels encoding settings
      let otherChart := ElapsedChart.ofLevels others encoding settings
      chart.groups = otherChart.groups ∧ chart.range = otherChart.range ∧
      ∀ style, (∀ typeface, chart.sketch style typeface = otherChart.sketch style typeface) ∧
        ∀ path before otherBefore location,
          (style.labelled = true → otherBefore.typeface = before.typeface) →
          (chart.render path style).result before = .ok () →
          otherBefore.tree.target otherBefore.working path = .ok location →
          (otherChart.render path style).result otherBefore = .ok () ∧
            ((otherChart.render path style).run otherBefore).2.fileBytes? path =
              ((chart.render path style).run before).2.fileBytes? path) ∧
    ∀ settings, ∃ chart otherChart,
      SpeedupChart.ofLevels levels settings = .ok chart ∧
      SpeedupChart.ofLevels others settings = .ok otherChart ∧
      chart.groups.map (·.value encoding) = otherChart.groups.map (·.value encoding) := by
  have agree := forall₂_agree_of_loadLevels sameLevels loaded otherLoaded same
  refine ⟨agree, ?_, ?_⟩
  · intro settings chart otherChart
    have charts : chart = otherChart := ElapsedChart.ofLevels_congr agree settings
    rw [← charts]
    refine ⟨rfl, rfl, fun style => ⟨fun _ => rfl, ?_⟩⟩
    intro path before otherBefore location sameFont saved reached
    exact ElapsedChart.render_again sameFont reached saved
  · intro settings
    obtain ⟨chart, made, grouped⟩ :=
      SpeedupChart.exists_ofLevels (compared_of_loadLevels loaded) settings
    obtain ⟨otherChart, otherMade, otherGrouped⟩ :=
      SpeedupChart.exists_ofLevels (compared_of_loadLevels otherLoaded) settings
    exact ⟨chart, otherChart, made, otherMade,
      SpeedupChart.map_value_congr agree grouped otherGrouped⟩

/-- A workspace with the results of one level, all in files of one name. The results with
stack encoding are given. -/
def Workspace.withStack (name stack : String) : Workspace where
  tree :=
    let results (text : String) : Entry := .file (.plain (Text.encode text.toList))
    let below (variant text : String) : List (Location × Entry) :=
      [(["data", "GCC", "O0", variant], .directory),
       (["data", "GCC", "O0", variant, name], results text)]
    let entries : List (Location × Entry) :=
      [(["data"], .directory), (["data", "GCC"], .directory),
       (["data", "GCC", "O0"], .directory)] ++
        below "br" "run,elapsed,deviation\n1,20,0\n" ++ below "bs" stack ++
        below "ur" "run,elapsed,deviation\n1,16,0\n" ++ below "us" stack
    entries.foldl (fun tree (location, entry) => tree.put location entry) .empty
  working := []
  font := none
  events := []

/-- Other results with stack encoding, and another name for all files, leave the statistics and
the picture with register encoding alone. -/
theorem encodings_separate_register :
    let configuration : Configuration := { levels := [.O0] }
    let workspace := Workspace.withStack "runs.csv" "run,elapsed,deviation\n1,30,0\n"
    let otherWorkspace := Workspace.withStack "new.csv" "a,b,c\n1,5,0\n2,inf,0\n"
    ∃ levels others,
      (loadLevels configuration).result workspace = .ok levels ∧
      (loadLevels configuration).result otherWorkspace = .ok others ∧
      List.Forall₂ (LevelResults.Agree .register) levels others ∧
      let chart := ElapsedChart.ofLevels levels .register configuration.elapsedChart
      let otherChart := ElapsedChart.ofLevels others .register configuration.elapsedChart
      (otherChart.render ⟨"register.png"⟩ .plain).result otherWorkspace = .ok () ∧
        ((otherChart.render ⟨"register.png"⟩ .plain).run otherWorkspace).2.fileBytes?
            ⟨"register.png"⟩ =
          ((chart.render ⟨"register.png"⟩ .plain).run workspace).2.fileBytes?
            ⟨"register.png"⟩ := by
  intro configuration workspace otherWorkspace
  obtain ⟨levels, loaded, saved⟩ : ∃ levels,
      (loadLevels configuration).result workspace = .ok levels ∧
        (((ElapsedChart.ofLevels levels .register configuration.elapsedChart).render
          ⟨"register.png"⟩ .plain).result workspace).isOk = true :=
    exists_of_any (by decide +kernel)
  obtain ⟨others, otherLoaded⟩ : ∃ levels,
      (loadLevels configuration).result otherWorkspace = .ok levels :=
    exists_of_isOk (by decide +kernel)
  have same : ∀ level ∈ configuration.levels, ∀ decoding,
      let directory := (Variant.mk decoding .register).directoryName
      workspace.resultBytes? ((configuration.levelDirectory level).child directory) =
        otherWorkspace.resultBytes? ((configuration.levelDirectory level).child directory) := by
    intro level member decoding
    obtain rfl := List.mem_singleton.1 member
    cases decoding <;> decide +kernel
  obtain ⟨⟨⟩, drawn⟩ := exists_of_isOk saved
  have place : otherWorkspace.tree.target otherWorkspace.working ⟨"register.png"⟩ =
      .ok ["register.png"] := by
    decide +kernel
  obtain ⟨agree, charts, -⟩ := encodings_separate .register rfl loaded otherLoaded same
  obtain ⟨-, -, styled⟩ := charts configuration.elapsedChart
  have again := (styled .plain).2 ⟨"register.png"⟩ workspace otherWorkspace _
    (by simp [Style.plain]) drawn place
  exact ⟨levels, others, loaded, otherLoaded, agree, again⟩

end BenchFigures
