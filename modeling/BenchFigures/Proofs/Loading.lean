import BenchFigures.Generate
import BenchFigures.Proofs.Discovery

/-!
# Loading levels

Loading only looks at the files. A level is loaded exactly if each of its four
directories has a single result file and that file can be read; what is loaded are
the statistics of these files, and each union variant is compared with the bitmask
variant of its encoding. All four files are found before the first one is read, so
a file that is missing is noticed before one that is spoiled.
-/

namespace BenchFigures

/-! ### Reading one result file -/

namespace ResultFile

/-- Opening a result file only looks. -/
theorem open?_onlyLooks (file : Path) : (open? file).OnlyLooks := by
  apply (Action.OnlyLooks.look _).bind
  intro found
  rcases found with fault | _ | content
  · exact (Action.OnlyLooks.fail _).during _
  · exact (Action.OnlyLooks.fail _).during _
  · exact .pure _

/-- Reading a result file only looks. -/
theorem read_onlyLooks (file : Path) : (read file).OnlyLooks :=
  (open?_onlyLooks file).bind fun _ => (Action.OnlyLooks.ofResult _).bind fun _ =>
    (Action.OnlyLooks.report _ (by simp)).bind fun _ => (Action.OnlyLooks.ofExcept _ _).during _

/-- A result file that can be read is somewhere. -/
theorem resolve_of_read {file : Path} {workspace : Workspace} {sample : Sample Float}
    (readable : (read file).result workspace = .ok sample) :
    ∃ location, workspace.tree.resolve workspace.working file = .ok location := by
  cases resolved : workspace.tree.resolve workspace.working file with
  | ok location => exact ⟨location, rfl⟩
  | error fault =>
    have lost : workspace.tree.find workspace.working file = .error fault := by
      simp [FileTree.find, resolved, bind, Except.bind]
    simp [read, open?, Action.result, Action.run_bind, lost, Except.mapError] at readable

end ResultFile

/-! ### Comparing and loading one level -/

/-- Comparing with a baseline only looks. -/
theorem Aggregate.compareWith_onlyLooks (aggregate baseline : Aggregate Float) :
    (aggregate.compareWith baseline).OnlyLooks := by
  rw [compareWith]
  refine (Action.OnlyLooks.ofExcept _ _).bind fun _ => ?_
  split
  · exact (Action.OnlyLooks.report _ (by simp)).bind fun _ => .pure _
  · exact .pure _

/-- A first comparison stores the speedup. -/
theorem Aggregate.result_compareWith {aggregate baseline : Aggregate Float}
    (first : aggregate.speedup = none) (workspace : Workspace) :
    (aggregate.compareWith baseline).result workspace =
      .ok { aggregate with speedup := some (aggregate.speedupOver baseline) } := by
  rw [compareWith]
  by_cases differ : baseline.count = aggregate.count <;>
    simp [-bind_pure_comp, Action.result, compare_of_none first, Action.run_bind, Except.mapError,
      differ]

namespace LevelResults

/-- The results of a level from the samples of its variants: the statistics of each
sample, with the speedup of each union variant over the bitmask variant that has the
same encoding. -/
def ofSamples (level : OptimizationLevel) (samples : PerVariant (Sample Float)) : LevelResults where
  level := level
  aggregates := .ofFunction fun variant =>
    { Aggregate.ofSample (samples.get variant) with
      speedup :=
        match variant.decoding with
        | .bitmask => none
        | .union =>
          some (Scalar.mean (samples.get ⟨.bitmask, variant.encoding⟩).elapsed /
            Scalar.mean (samples.get variant).elapsed - Scalar.ofInt 1) }

/-- Comparing the variants of a level only looks. -/
theorem ofAggregates_onlyLooks (level : OptimizationLevel)
    (aggregates : PerVariant (Aggregate Float)) : (ofAggregates level aggregates).OnlyLooks :=
  (Aggregate.compareWith_onlyLooks _ _).bind fun _ =>
    (Aggregate.compareWith_onlyLooks _ _).bind fun _ => .pure _

/-- Comparing fresh statistics always succeeds. -/
theorem result_ofAggregates {aggregates : PerVariant (Aggregate Float)}
    {samples : PerVariant (Sample Float)}
    (fresh : ∀ variant, aggregates.get variant = Aggregate.ofSample (samples.get variant))
    (level : OptimizationLevel) (workspace : Workspace) :
    (ofAggregates level aggregates).result workspace = .ok (ofSamples level samples) := by
  obtain rfl : aggregates = .ofFunction fun variant => Aggregate.ofSample (samples.get variant) :=
    PerVariant.ext_get fun variant => by rw [fresh, PerVariant.get_ofFunction]
  have compared (first second : Variant) :
      ((Aggregate.ofSample (samples.get first)).compareWith
        (Aggregate.ofSample (samples.get second))).result workspace =
      .ok { Aggregate.ofSample (samples.get first) with
        speedup := some ((Aggregate.ofSample (samples.get first)).speedupOver
          (Aggregate.ofSample (samples.get second))) } :=
    Aggregate.result_compareWith rfl workspace
  have looks := Aggregate.compareWith_onlyLooks
  rw [ofAggregates, (looks _ _).result_bind fun _ => (looks _ _).bind fun _ => .pure _]
  rw [PerVariant.ofFunction, compared, Except.bind, (looks _ _).result_bind fun _ => .pure _]
  rw [compared]
  rfl

/-- Loading a level only looks. -/
theorem load_onlyLooks (level : OptimizationLevel) (directory : Path) :
    (load level directory).OnlyLooks :=
  ((ResultDirectory.discover_onlyLooks directory).during _).bind fun _ =>
    (Action.OnlyLooks.forEach fun _ =>
      ((ResultFile.read_onlyLooks _).during _).bind fun _ => .pure _).bind fun _ =>
    (ofAggregates_onlyLooks level _).bind fun _ =>
      (Action.OnlyLooks.report _ (by simp)).bind fun _ => .pure _

/-- A variant has exactly one result file below a directory, and the file can be
read. -/
structure Provides (workspace : Workspace) (directory : Path) (variant : Variant) (file : Path)
    (sample : Sample Float) : Prop where
  only : ResultDirectory.HoldsOnly workspace.tree workspace.working
    (directory.child variant.directoryName) file
  readable : (ResultFile.read file).result workspace = .ok sample

/-- A variant is the first one whose result file is not found, and this is why. -/
def MissesFirst (workspace : Workspace) (directory : Path) (variant : Variant)
    (failure : Failure) : Prop :=
  ∃ earlier later, Variant.all = earlier ++ variant :: later ∧
    (∀ other ∈ earlier, ∃ file, ResultDirectory.HoldsOnly workspace.tree workspace.working
      (directory.child other.directoryName) file) ∧
    (ResultDirectory.findFile (directory.child variant.directoryName)).result workspace =
      .error failure

/-- All result files are found, a variant is the first one whose file cannot be read,
and this is why. -/
def SpoilsFirst (workspace : Workspace) (directory : Path) (variant : Variant)
    (failure : Failure) : Prop :=
  (∀ other : Variant, ∃ file, ResultDirectory.HoldsOnly workspace.tree workspace.working
      (directory.child other.directoryName) file) ∧
    ∃ earlier later file, Variant.all = earlier ++ variant :: later ∧
      (∀ other ∈ earlier, ∃ file sample, Provides workspace directory other file sample) ∧
      ResultDirectory.HoldsOnly workspace.tree workspace.working
        (directory.child variant.directoryName) file ∧
      (ResultFile.read file).result workspace = .error failure

/-- Reading the files of all variants only looks. -/
theorem readAll_onlyLooks (level : OptimizationLevel) (files : PerVariant Path)
    (variant : Variant) :
    Action.OnlyLooks (do
      let sample ← (ResultFile.read (files.get variant)).during (.loading level variant)
      return Aggregate.ofSample sample) :=
  ((ResultFile.read_onlyLooks _).during _).bind fun _ => .pure _

/-- What loading a level gives: all files are found first, then they are read, then
the variants are compared. -/
theorem result_load (level : OptimizationLevel) (directory : Path) (workspace : Workspace) :
    (load level directory).result workspace =
      (((ResultDirectory.discover directory).result workspace).mapError
        (Failure.during (.findingResults level))).bind fun files =>
      (PerVariant.forEach fun variant =>
        (((ResultFile.read (files.get variant)).result workspace).mapError
          (Failure.during (.loading level variant))).map Aggregate.ofSample).bind
        fun aggregates => (ofAggregates level aggregates).result workspace := by
  have finds := (ResultDirectory.discover_onlyLooks directory).during (.findingResults level)
  have compares (aggregates : PerVariant (Aggregate Float)) :=
    (ofAggregates_onlyLooks level aggregates).bind fun results =>
      (Action.OnlyLooks.report (.unionSpeedup level
        (results.aggregates.unionRegister.speedup.getD 0.0)
        (results.aggregates.unionStack.speedup.getD 0.0)) (by simp)).bind fun _ => .pure results
  have reads (files : PerVariant Path) := Action.OnlyLooks.forEach (readAll_onlyLooks level files)
  rw [load, finds.result_bind fun files => (reads files).bind compares]
  apply congrArg
  funext files
  rw [(reads files).result_bind compares, Action.OnlyLooks.result_forEach (readAll_onlyLooks _ _)]
  have readEach (variant : Variant) :
      Action.result (do
        let sample ← (ResultFile.read (files.get variant)).during (.loading level variant)
        return Aggregate.ofSample sample) workspace =
      (((ResultFile.read (files.get variant)).result workspace).mapError
        (Failure.during (.loading level variant))).map Aggregate.ofSample := by
    rw [((ResultFile.read_onlyLooks _).during _).result_bind fun _ => .pure _]
    rfl
  simp only [readEach]
  apply congrArg
  funext aggregates
  rw [(ofAggregates_onlyLooks level aggregates).result_bind fun _ =>
    (Action.OnlyLooks.report _ (by simp)).bind fun _ => .pure _]
  cases (ofAggregates level aggregates).result workspace <;> rfl

/-- Statistics of files are those of the samples in them. -/
theorem samples_of_aggregates {level : OptimizationLevel} {files : PerVariant Path}
    {workspace : Workspace} {aggregates : PerVariant (Aggregate Float)}
    (computed : PerVariant.forEach (fun variant =>
      (((ResultFile.read (files.get variant)).result workspace).mapError
        (Failure.during (.loading level variant))).map Aggregate.ofSample) = .ok aggregates) :
    ∃ samples : PerVariant (Sample Float), ∀ variant,
      (ResultFile.read (files.get variant)).result workspace = .ok (samples.get variant) ∧
        aggregates.get variant = Aggregate.ofSample (samples.get variant) := by
  have each (variant : Variant) : ∃ sample,
      (ResultFile.read (files.get variant)).result workspace = .ok sample ∧
        aggregates.get variant = Aggregate.ofSample sample := by
    have own := (PerVariant.forEach_eq_ok_iff _ _).1 computed variant
    obtain ⟨sample, readable, aggregated⟩ := (map_eq_ok_iff _ _ _).1 own
    exact ⟨sample, (mapError_eq_ok_iff _ _ _).1 readable, aggregated.symm⟩
  choose sample both using each
  refine ⟨.ofFunction sample, ?_⟩
  intro variant
  simpa only [PerVariant.get_ofFunction] using both variant

/-- A level is loaded exactly if every variant has one result file that can be read,
and then its results are those of these files. -/
theorem load_eq_ok_iff (level : OptimizationLevel) (directory : Path) (workspace : Workspace)
    (results : LevelResults) :
    (load level directory).result workspace = .ok results ↔
      ∃ (files : PerVariant Path) (samples : PerVariant (Sample Float)),
        (∀ variant,
          Provides workspace directory variant (files.get variant) (samples.get variant)) ∧
        results = ofSamples level samples := by
  rw [result_load, bind_eq_ok_iff]
  constructor
  · rintro ⟨files, found, rest⟩
    obtain ⟨aggregates, computed, compared⟩ := (bind_eq_ok_iff _ _ _).1 rest
    have only := (ResultDirectory.result_discover_eq_ok_iff directory files workspace).1
      ((mapError_eq_ok_iff _ _ _).1 found)
    obtain ⟨samples, both⟩ := samples_of_aggregates computed
    have whole := result_ofAggregates (fun variant => (both variant).2) level workspace
    exact ⟨files, samples, fun variant => ⟨only variant, (both variant).1⟩,
      Except.ok.inj (compared.symm.trans whole)⟩
  · rintro ⟨files, samples, provided, rfl⟩
    have found := (ResultDirectory.result_discover_eq_ok_iff directory files workspace).2
      fun variant => (provided variant).only
    refine ⟨files, (mapError_eq_ok_iff _ _ _).2 found, ?_⟩
    refine (bind_eq_ok_iff _ _ _).2
      ⟨.ofFunction fun variant => Aggregate.ofSample (samples.get variant), ?_, ?_⟩
    · rw [PerVariant.forEach_eq_ok_iff]
      intro variant
      rw [(provided variant).readable, PerVariant.get_ofFunction]
      rfl
    · exact result_ofAggregates (fun variant => PerVariant.get_ofFunction _ _) level workspace

/-- A level is loaded exactly if every variant has one result file that can be read. -/
theorem exists_load_eq_ok_iff (level : OptimizationLevel) (directory : Path)
    (workspace : Workspace) :
    (∃ results, (load level directory).result workspace = .ok results) ↔
      ∀ variant, ∃ file sample, Provides workspace directory variant file sample := by
  simp only [load_eq_ok_iff]
  constructor
  · rintro ⟨results, files, samples, provided, -⟩ variant
    exact ⟨files.get variant, samples.get variant, provided variant⟩
  · intro every
    choose file sample provided using every
    refine ⟨_, .ofFunction file, .ofFunction sample, ?_, rfl⟩
    intro variant
    simpa only [PerVariant.get_ofFunction] using provided variant

/-- A level that is not loaded fails for the first variant without a single result
file or, if there is none, for the first variant whose file cannot be read. -/
theorem first_failure_of_load {level : OptimizationLevel} {directory : Path}
    {workspace : Workspace} {failure : Failure}
    (failed : (load level directory).result workspace = .error failure) :
    (∃ variant inner, MissesFirst workspace directory variant inner ∧
        failure = inner.during (.findingResults level)) ∨
      ∃ variant inner, SpoilsFirst workspace directory variant inner ∧
        failure = inner.during (.loading level variant) := by
  rw [result_load] at failed
  rcases (bind_eq_error_iff _ _ _).1 failed with missed | ⟨files, found, rest⟩
  · obtain ⟨inner, searched, rfl⟩ := (mapError_eq_error_iff _ _ _).1 missed
    obtain ⟨earlier, variant, later, split, only, absent⟩ :=
      (ResultDirectory.result_discover_eq_error_iff directory inner workspace).1 searched
    exact .inl ⟨variant, inner, ⟨earlier, later, split, only, absent⟩, rfl⟩
  · have only := (ResultDirectory.result_discover_eq_ok_iff directory files workspace).1
      ((mapError_eq_ok_iff _ _ _).1 found)
    rcases (bind_eq_error_iff _ _ _).1 rest with spoiled | ⟨aggregates, computed, compared⟩
    · obtain ⟨earlier, variant, later, split, readEarlier, unread⟩ :=
        (PerVariant.forEach_eq_error_iff _ _).1 spoiled
      have complete : ∀ other ∈ earlier, ∃ file sample,
          Provides workspace directory other file sample := by
        intro other member
        obtain ⟨aggregate, own⟩ := readEarlier other member
        obtain ⟨sample, readable, -⟩ := (map_eq_ok_iff _ _ _).1 own
        exact ⟨files.get other, sample, only other, (mapError_eq_ok_iff _ _ _).1 readable⟩
      obtain ⟨inner, unreadable, rfl⟩ :=
        (mapError_eq_error_iff _ _ _).1 ((map_eq_error_iff _ _ _).1 unread)
      right
      refine ⟨variant, inner, ⟨?_, earlier, later, files.get variant, split, complete,
        only variant, unreadable⟩, rfl⟩
      intro other
      exact ⟨files.get other, only other⟩
    · -- Statistics that were just computed carry no speedup yet, so comparing them succeeds.
      obtain ⟨samples, both⟩ := samples_of_aggregates computed
      have whole := result_ofAggregates (fun variant => (both variant).2) level workspace
      exact absurd (compared.symm.trans whole) (by simp)

/-- The files of different variants, or of different levels, are different. -/
theorem location_ne_of_provides {workspace : Workspace} {base : Path}
    {level otherLevel : OptimizationLevel} {variant otherVariant : Variant}
    {file otherFile : Path} {sample otherSample : Sample Float}
    (provided : Provides workspace (base.join ⟨level.name⟩) variant file sample)
    (otherProvided :
      Provides workspace (base.join ⟨otherLevel.name⟩) otherVariant otherFile otherSample)
    (differ : (level, variant) ≠ (otherLevel, otherVariant)) :
    ∃ location otherLocation,
      workspace.tree.resolve workspace.working file = .ok location ∧
      workspace.tree.resolve workspace.working otherFile = .ok otherLocation ∧
      location ≠ otherLocation := by
  obtain ⟨location, reached⟩ := ResultFile.resolve_of_read provided.readable
  obtain ⟨otherLocation, otherReached⟩ := ResultFile.resolve_of_read otherProvided.readable
  refine ⟨location, otherLocation, reached, otherReached, ?_⟩
  rintro rfl
  obtain ⟨above, name, place⟩ := provided.only.location reached
  obtain ⟨otherAbove, otherName, otherPlace⟩ := otherProvided.only.location otherReached
  have steps := List.append_inj_right' (place.symm.trans otherPlace) rfl
  obtain ⟨sameLevel, sameVariant, -⟩ : level.name = otherLevel.name ∧
      variant.directoryName = otherVariant.directoryName ∧ name = otherName := by simpa using steps
  have levels : some level = some otherLevel := by
    rw [← OptimizationLevel.ofName?_name level, sameLevel, OptimizationLevel.ofName?_name]
  exact differ (Prod.ext (Option.some.inj levels) (Variant.directoryName_injective sameVariant))

end LevelResults

/-! ### Loading all levels -/

/-- Loading all levels only looks. -/
theorem loadLevels_onlyLooks (configuration : Configuration) :
    (loadLevels configuration).OnlyLooks :=
  (Action.OnlyLooks.mapM (fun _ => LevelResults.load_onlyLooks _ _) _).bind fun _ =>
    (Action.OnlyLooks.report _ (by simp)).bind fun _ => .pure _

/-- Loading all levels gives what loading each of them in turn gives. -/
theorem result_loadLevels (configuration : Configuration) (workspace : Workspace) :
    (loadLevels configuration).result workspace =
      configuration.levels.mapM fun level =>
        (LevelResults.load level (configuration.levelDirectory level)).result workspace := by
  have looks (level : OptimizationLevel) :=
    LevelResults.load_onlyLooks level (configuration.levelDirectory level)
  rw [loadLevels, (Action.OnlyLooks.mapM looks _).result_bind fun _ =>
    (Action.OnlyLooks.report _ (by simp)).bind fun _ => .pure _, Action.OnlyLooks.result_mapM looks]
  cases configuration.levels.mapM fun level =>
    (LevelResults.load level (configuration.levelDirectory level)).result workspace <;> rfl

/-- The reports of a run that cannot load its levels are those about the levels up to
the first one that fails. -/
theorem reports_loadLevels {configuration : Configuration} {workspace : Workspace}
    {earlier later : List OptimizationLevel} {level : OptimizationLevel} {failure : Failure}
    (split : configuration.levels = earlier ++ level :: later)
    (loaded : ∀ other ∈ earlier, ∃ results,
      (LevelResults.load other (configuration.levelDirectory other)).result workspace = .ok results)
    (failed : (LevelResults.load level (configuration.levelDirectory level)).result workspace =
      .error failure) :
    (loadLevels configuration).reports workspace =
      (earlier ++ [level]).flatMap fun other =>
        (LevelResults.load other (configuration.levelDirectory other)).reports workspace := by
  have looks (other : OptimizationLevel) :=
    LevelResults.load_onlyLooks other (configuration.levelDirectory other)
  have whole := Action.OnlyLooks.reports_mapM looks later loaded failed
  have stopped : Action.result (configuration.levels.mapM fun other =>
      LevelResults.load other (configuration.levelDirectory other)) workspace = .error failure := by
    rw [Action.OnlyLooks.result_mapM looks]
    exact (mapM_eq_error_iff _ _ _).2 ⟨earlier, level, later, split, loaded, failed⟩
  rw [loadLevels, (Action.OnlyLooks.mapM looks _).reports_bind fun _ =>
    (Action.OnlyLooks.report _ (by simp)).bind fun _ => .pure _, stopped, split, whole]
  simp

/-- The results of a level are the statistics of the files of its variants. Union
variants carry their speedup over the bitmask variant with the same encoding and
bitmask variants carry none. -/
def LoadedFrom (configuration : Configuration) (workspace : Workspace)
    (level : OptimizationLevel) (results : LevelResults) : Prop :=
  results.level = level ∧
    ∃ (files : PerVariant Path) (samples : PerVariant (Sample Float)),
      (∀ variant, LevelResults.Provides workspace (configuration.levelDirectory level) variant
        (files.get variant) (samples.get variant)) ∧
      ∀ encoding,
        results.get ⟨.bitmask, encoding⟩ = Aggregate.ofSample (samples.get ⟨.bitmask, encoding⟩) ∧
        results.get ⟨.union, encoding⟩ =
          { Aggregate.ofSample (samples.get ⟨.union, encoding⟩) with
            speedup := some ((results.get ⟨.bitmask, encoding⟩).average /
              (results.get ⟨.union, encoding⟩).average - Float.ofInt 1) }

/-- What loading a level gives are the statistics of its files. -/
theorem loadedFrom_of_load {configuration : Configuration} {workspace : Workspace}
    {level : OptimizationLevel} {results : LevelResults}
    (loaded : (LevelResults.load level (configuration.levelDirectory level)).result workspace =
      .ok results) : LoadedFrom configuration workspace level results := by
  obtain ⟨files, samples, provided, rfl⟩ :=
    (LevelResults.load_eq_ok_iff level _ workspace results).1 loaded
  refine ⟨rfl, files, samples, provided, ?_⟩
  intro encoding
  cases encoding <;> exact ⟨rfl, rfl⟩

/-- Only union variants have a speedup, which compares the averages. -/
theorem LoadedFrom.speedups {configuration : Configuration} {workspace : Workspace}
    {level : OptimizationLevel} {results : LevelResults}
    (loaded : LoadedFrom configuration workspace level results) (encoding : Encoding) :
    (results.get ⟨.bitmask, encoding⟩).speedup = none ∧
      (results.get ⟨.union, encoding⟩).speedup =
        some ((results.get ⟨.bitmask, encoding⟩).average /
          (results.get ⟨.union, encoding⟩).average - Float.ofInt 1) := by
  obtain ⟨-, _, _, -, statistics⟩ := loaded
  obtain ⟨bitmask, union⟩ := statistics encoding
  constructor
  · rw [bitmask]
    rfl
  · exact congrArg Aggregate.speedup union

/-- Levels are loaded exactly if every variant of each configured level has a single
result file that can be read. Then there is one result for each configured level, in
the configured order, from the files of that level, and no file counts for two
different variants or levels. Otherwise the first level that fails decides the
failure, and nothing is reported about later levels. Within that level a result file
that is missing, or not the only one, comes before one that cannot be read, and among
these the first in the order of variants counts. -/
theorem loadLevels_complete_or_first_failure (configuration : Configuration)
    (workspace : Workspace) :
    ((∃ levels, (loadLevels configuration).result workspace = .ok levels) ↔
      ∀ level ∈ configuration.levels, ∀ variant, ∃ file sample,
        LevelResults.Provides workspace (configuration.levelDirectory level) variant file sample) ∧
    (∀ levels, (loadLevels configuration).result workspace = .ok levels →
      List.Forall₂ (LoadedFrom configuration workspace) configuration.levels levels) ∧
    (∀ level variant file sample otherLevel otherVariant otherFile otherSample,
      LevelResults.Provides workspace (configuration.levelDirectory level) variant file sample →
      LevelResults.Provides workspace (configuration.levelDirectory otherLevel) otherVariant
        otherFile otherSample →
      (level, variant) ≠ (otherLevel, otherVariant) →
      ∃ location otherLocation,
        workspace.tree.resolve workspace.working file = .ok location ∧
        workspace.tree.resolve workspace.working otherFile = .ok otherLocation ∧
        location ≠ otherLocation) ∧
    ∀ failure, (loadLevels configuration).result workspace = .error failure →
      ∃ earlier level later, configuration.levels = earlier ++ level :: later ∧
        (∀ other ∈ earlier, ∀ variant, ∃ file sample, LevelResults.Provides workspace
          (configuration.levelDirectory other) variant file sample) ∧
        ((∃ variant inner,
            LevelResults.MissesFirst workspace (configuration.levelDirectory level) variant
              inner ∧
            failure = inner.during (.findingResults level) ∧
            failure.texts.head? = some s!"could not find the results of {level.flag}") ∨
          ∃ variant inner,
            LevelResults.SpoilsFirst workspace (configuration.levelDirectory level) variant
              inner ∧
            failure = inner.during (.loading level variant) ∧
            failure.texts.head? = some s!"could not load {level.flag} {variant.name}") ∧
        ((loadLevels configuration).run workspace).2.events =
          workspace.events ++ (earlier ++ [level]).flatMap fun other =>
            (LevelResults.load other (configuration.levelDirectory other)).reports workspace := by
  refine ⟨?_, ?_, ?_, ?_⟩
  · rw [result_loadLevels, exists_mapM_eq_ok_iff]
    simp only [LevelResults.exists_load_eq_ok_iff]
  · intro levels loaded
    rw [result_loadLevels, mapM_eq_ok_iff] at loaded
    exact loaded.imp fun level results => loadedFrom_of_load
  · intro level variant file sample otherLevel otherVariant otherFile otherSample provided
      otherProvided differ
    exact LevelResults.location_ne_of_provides provided otherProvided differ
  · intro failure failed
    rw [result_loadLevels, mapM_eq_error_iff] at failed
    obtain ⟨earlier, level, later, split, loaded, failedHere⟩ := failed
    have provided : ∀ other ∈ earlier, ∀ variant, ∃ file sample, LevelResults.Provides workspace
        (configuration.levelDirectory other) variant file sample := by
      intro other member
      exact (LevelResults.exists_load_eq_ok_iff other _ workspace).1 (loaded other member)
    have events := reports_loadLevels split loaded failedHere
    have run := (loadLevels_onlyLooks configuration).run_result workspace
    refine ⟨earlier, level, later, split, provided, ?_, ?_⟩
    · rcases LevelResults.first_failure_of_load failedHere with
        ⟨variant, inner, missed, rfl⟩ | ⟨variant, inner, spoiled, rfl⟩
      · exact .inl ⟨variant, inner, missed, rfl, rfl⟩
      · exact .inr ⟨variant, inner, spoiled, rfl, rfl⟩
    · rw [run, Workspace.events_reporting, events]

/-- A workspace with all results of one level, and with another one where a result file is spoiled
and one is missing. -/
def Workspace.measured : Workspace where
  tree :=
    let results (text : String) : Entry := .file (.plain (Text.encode text.toList))
    let below (level variant text : String) : List (Location × Entry) :=
      [(["data", "GCC", level, variant], .directory),
       (["data", "GCC", level, variant, "runs.csv"], results text)]
    let entries : List (Location × Entry) :=
      [(["data"], .directory), (["data", "GCC"], .directory),
       (["data", "GCC", "O0"], .directory), (["data", "GCC", "O1"], .directory)] ++
        below "O0" "br" "run,elapsed,deviation\n1,20,0\n" ++
        below "O0" "bs" "run,elapsed,deviation\n1,20,0\n2,40,0\n" ++
        below "O0" "ur" "run,elapsed,deviation\n1,16,0\n" ++
        below "O0" "us" "run,elapsed,deviation\n1,60,0\n" ++
        below "O1" "br" "run,elapsed,deviation\n1,fast,0\n"
    entries.foldl (fun tree (location, entry) => tree.put location entry) .empty
  working := []
  font := none
  events := []

/-- A level that is named twice is loaded twice, with the statistics of its own files. If another
level lacks a file, loading stops there, although a file that comes before is spoiled. -/
theorem loadLevels_complete_or_first_failure_measured :
    (∃ first second,
      (loadLevels { levels := [.O0, .O0] }).result .measured = .ok [first, second] ∧
        ∀ results ∈ [first, second], results.level = .O0 ∧
          (results.get ⟨.bitmask, .register⟩).average = 20.0 ∧
          (results.get ⟨.bitmask, .register⟩).speedup = none ∧
          (results.get ⟨.union, .register⟩).speedup = some 0.25 ∧
          (results.get ⟨.bitmask, .stack⟩).average = 30.0 ∧
          (results.get ⟨.union, .stack⟩).speedup = some (-0.5)) ∧
    ∃ failure, (loadLevels { levels := [.O0, .O1, .O0] }).result .measured = .error failure ∧
      failure.texts.head? = some "could not find the results of -O1" := by
  constructor
  · let averages (results : LevelResults) : List Float :=
      Variant.all.map fun variant => (results.get variant).average
    obtain ⟨levels, loaded, same⟩ : ∃ levels,
        (loadLevels { levels := [.O0, .O0] }).result .measured = .ok levels ∧
          decide (levels.map averages =
            [[20.0, 30.0, 16.0, 60.0], [20.0, 30.0, 16.0, 60.0]]) = true :=
      exists_of_any (by decide +kernel)
    have numbers (results : LevelResults)
        (loaded : LoadedFrom { levels := [.O0, .O0] } .measured .O0 results)
        (same : averages results = [20.0, 30.0, 16.0, 60.0]) :
        results.level = .O0 ∧ (results.get ⟨.bitmask, .register⟩).average = 20.0 ∧
          (results.get ⟨.bitmask, .register⟩).speedup = none ∧
          (results.get ⟨.union, .register⟩).speedup = some 0.25 ∧
          (results.get ⟨.bitmask, .stack⟩).average = 30.0 ∧
          (results.get ⟨.union, .stack⟩).speedup = some (-0.5) := by
      have quarter : (20.0 / 16.0 - Float.ofInt 1 : Float) = 0.25 := by decide +kernel
      have half : (30.0 / 60.0 - Float.ofInt 1 : Float) = -0.5 := by decide +kernel
      simp only [averages, Variant.all, List.map_cons, List.map_nil, List.cons.injEq] at same
      obtain ⟨first, second, third, fourth, -⟩ := same
      obtain ⟨unset, faster⟩ := loaded.speedups .register
      obtain ⟨-, slower⟩ := loaded.speedups .stack
      rw [first, third, quarter] at faster
      rw [second, fourth, half] at slower
      exact ⟨loaded.1, first, unset, faster, second, slower⟩
    obtain ⟨-, provided, -⟩ :=
      loadLevels_complete_or_first_failure { levels := [.O0, .O0] } .measured
    have each := provided levels loaded
    rcases each with _ | ⟨firstLoaded, _ | ⟨secondLoaded, _ | _⟩⟩
    simp only [List.map_cons, List.map_nil, decide_eq_true_eq, List.cons.injEq] at same
    obtain ⟨firstSame, secondSame, -⟩ := same
    refine ⟨_, _, loaded, ?_⟩
    simp only [List.forall_mem_cons]
    exact ⟨numbers _ firstLoaded firstSame, numbers _ secondLoaded secondSame, by simp⟩
  · obtain ⟨failure, failed, text⟩ : ∃ failure,
        (loadLevels { levels := [.O0, .O1, .O0] }).result .measured = .error failure ∧
          decide (failure.texts.head? = some "could not find the results of -O1") = true :=
      exists_error_of_any (by decide +kernel)
    exact ⟨failure, failed, of_decide_eq_true text⟩

end BenchFigures
