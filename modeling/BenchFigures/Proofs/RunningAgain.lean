import BenchFigures.Proofs.SameSights
import BenchFigures.Proofs.StagedRun

/-!
# Running again

A run that succeeds leaves each output in the place of its file, and what it leaves there
follows from the levels, the style and the path alone. If no output is stored where the run
looks for results or for a font, a second run sees what the first one saw. So it loads the
same levels, chooses the same style and stores the same contents at the same places, which
are there already.

Outputs may lie anywhere else. They may share a file, in which the last one is left, and they
may lie in the directory of a level, which is not searched itself. The font of the first run
is registered and not read again.
-/

namespace BenchFigures

/-! ### What outputs leave -/

/-- What an output leaves: a content at a location, and the events reported about it. -/
structure Deposit where
  location : Location
  content : Content
  events : List Event

/-- The file of a deposit. -/
def Deposit.file (deposit : Deposit) : Location × Content := (deposit.location, deposit.content)

/-- The workspace after some deposits were left in it. -/
def Workspace.receiving (workspace : Workspace) (deposits : List Deposit) : Workspace :=
  { workspace with
    tree := workspace.tree.storeAll (deposits.map Deposit.file)
    events := workspace.events ++ deposits.flatMap Deposit.events }

namespace Output

/-- Writing an output leaves a deposit, at the place of its file, in every workspace with the
same font. -/
structure Leaves (workspace : Workspace) (output : Output) (deposit : Deposit) : Prop where
  place : workspace.tree.target workspace.working output.path = .ok deposit.location
  deposits : output.write.Deposits workspace.typeface output.path deposit.content deposit.events

/-- An output that is written leaves a deposit, and so is written in the same way with the same
font wherever there is a place for its file. -/
def IsRepeatable (output : Output) : Prop :=
  ∀ workspace, output.write.result workspace = .ok () → ∃ deposit, output.Leaves workspace deposit

/-- What an output leaves depends only on the font and on where its file is. -/
theorem Leaves.transfer {workspace other : Workspace} {output : Output} {deposit : Deposit}
    (leaves : output.Leaves workspace deposit) (sameFont : other.typeface = workspace.typeface)
    (same : ∀ path location, workspace.tree.target workspace.working path = .ok location →
      other.tree.target other.working path = .ok location) : output.Leaves other deposit :=
  ⟨same _ _ leaves.place, sameFont ▸ leaves.deposits⟩

/-- Leaving a deposit moves no place for a file. -/
theorem Leaves.target_iff {workspace : Workspace} {output : Output} {deposit : Deposit}
    (leaves : output.Leaves workspace deposit) (path : Path) (location : Location) :
    let after := (workspace.storing deposit.location deposit.content).reporting deposit.events
    after.tree.target after.working path = .ok location ↔
      workspace.tree.target workspace.working path = .ok location :=
  FileTree.target_store leaves.place deposit.content path location

/-- Each deposit is left by an output. -/
theorem exists_output_of_leaves {workspace : Workspace} {outputs : List Output}
    {deposits : List Deposit} (leave : List.Forall₂ (Leaves workspace) outputs deposits) :
    ∀ deposit ∈ deposits, ∃ output ∈ outputs, output.Leaves workspace deposit := by
  induction leave with
  | nil => simp
  | cons leavesHere _ inductionHypothesis =>
    refine List.forall_mem_cons.2 ⟨⟨_, List.mem_cons_self, leavesHere⟩, fun deposit member => ?_⟩
    obtain ⟨output, listed, leaves⟩ := inductionHypothesis deposit member
    exact ⟨output, List.mem_cons_of_mem _ listed, leaves⟩

/-- The files of deposits are stored in places for files. -/
theorem arePlaces_of_leaves {workspace : Workspace} {outputs : List Output}
    {deposits : List Deposit} (leave : List.Forall₂ (Leaves workspace) outputs deposits) :
    workspace.tree.ArePlaces (deposits.map Deposit.file) := by
  refine List.forall_mem_map.2 fun deposit member => ?_
  obtain ⟨_, -, leaves⟩ := exists_output_of_leaves leave deposit member
  exact FileTree.target_spec leaves.place

/-- Writing outputs in turn leaves their deposits. -/
theorem run_writeAll {workspace : Workspace} {outputs : List Output} {deposits : List Deposit}
    (leave : List.Forall₂ (Leaves workspace) outputs deposits) :
    (writeAll outputs).run workspace = (.ok (), workspace.receiving deposits) := by
  induction outputs generalizing workspace deposits with
  | nil =>
    obtain rfl := List.forall₂_nil_left_iff.1 leave
    have none : workspace.receiving [] = workspace := by
      simp [Workspace.receiving, FileTree.storeAll]
    rw [none]
    rfl
  | cons output rest inductionHypothesis =>
    obtain ⟨deposit, others, leavesHere, leaveRest, rfl⟩ := List.forall₂_cons_left_iff.1 leave
    have after := leavesHere.deposits workspace deposit.location rfl leavesHere.place
    let next := (workspace.storing deposit.location deposit.content).reporting deposit.events
    have leaveNext : List.Forall₂ (Leaves next) rest others := leaveRest.imp fun _ _ leaves =>
      leaves.transfer rfl fun path location => (leavesHere.target_iff path location).2
    have further := inductionHypothesis leaveNext
    rw [run_writeAll_cons, after]
    simp only
    rw [further]
    simp [next, Workspace.receiving, Workspace.storing, Workspace.reporting, FileTree.storeAll,
      Deposit.file]

/-- Outputs that are written in turn leave deposits. -/
theorem exists_leaves {workspace : Workspace} {outputs : List Output}
    (repeatable : ∀ output ∈ outputs, output.IsRepeatable)
    (written : (writeAll outputs).result workspace = .ok ()) :
    ∃ deposits, List.Forall₂ (Leaves workspace) outputs deposits := by
  induction outputs generalizing workspace with
  | nil => exact ⟨[], .nil⟩
  | cons output rest inductionHypothesis =>
    obtain ⟨repeatableHere, repeatableRest⟩ := List.forall_mem_cons.1 repeatable
    obtain ⟨_, writtenHere⟩ := Action.exists_result_of_bind written
    obtain ⟨deposit, leavesHere⟩ := repeatableHere workspace writtenHere
    rw [Action.result, run_writeAll_cons, leavesHere.deposits _ _ rfl leavesHere.place] at written
    obtain ⟨others, leaveRest⟩ := inductionHypothesis repeatableRest written
    refine ⟨deposit :: others, .cons leavesHere (leaveRest.imp fun _ _ leaves => ?_)⟩
    exact leaves.transfer rfl fun path location => (leavesHere.target_iff path location).1

/-- The chart of elapsed times is repeatable. -/
theorem isRepeatable_elapsedOutput [DrawingLibrary] (configuration : Configuration)
    (levels : List LevelResults) (style : Style) (encoding : Encoding) (path : Path) :
    (configuration.elapsedOutput levels style encoding path).IsRepeatable := by
  intro workspace written
  have saved := (mapError_eq_ok_iff _ _ _).1 written
  obtain ⟨location, content, place, deposits⟩ := ElapsedChart.deposits_render _ style saved
  exact ⟨⟨location, content, _⟩, place, Action.Deposits.during deposits _⟩

/-- The chart of speedups is repeatable. -/
theorem isRepeatable_speedupOutput [DrawingLibrary] (configuration : Configuration)
    (levels : List LevelResults) (style : Style) :
    (configuration.speedupOutput levels style).IsRepeatable := by
  intro workspace written
  cases compared : SpeedupChart.ofLevels levels configuration.speedupChart with
  | error cause =>
    have failed : (configuration.speedupOutput levels style).write.result workspace =
        .error cause.failure := by
      simp only [Configuration.speedupOutput, compared, Action.result, Action.run_bind,
        Action.run_ofExcept, Except.mapError]
      rfl
    exact absurd (failed.symm.trans written) (by simp)
  | ok chart =>
    have write : (configuration.speedupOutput levels style).write = (do
        (chart.render configuration.output.unionSpeedup style).during
          (.rendering configuration.output.unionSpeedup)
        Action.report (.summarized (Summary.table levels))) := by
      simp only [Configuration.speedupOutput, compared]
      rfl
    rw [write] at written
    obtain ⟨_, rendered⟩ := Action.exists_result_of_bind written
    have saved := (mapError_eq_ok_iff _ _ _).1 rendered
    obtain ⟨location, content, place, deposits⟩ := chart.deposits_render style saved
    have named := (Action.Deposits.during deposits
      (.rendering configuration.output.unionSpeedup)).report (.summarized (Summary.table levels))
    exact ⟨⟨location, content, _⟩, place, write ▸ named⟩

/-- The summary is repeatable. -/
theorem isRepeatable_summary (levels : List LevelResults) (path : Path) :
    (Summary.output levels path).IsRepeatable := by
  intro workspace written
  rw [Action.result, run_summary] at written
  cases place : workspace.tree.target workspace.working path with
  | error fault => simp [place] at written
  | ok location =>
    refine ⟨⟨location, Summary.content levels, [.saved path]⟩, place, ?_⟩
    intro other otherLocation _ reached
    have found : other.tree.target other.working path = .ok otherLocation := reached
    rw [run_summary, found]

/-- Every output of a run is repeatable. -/
theorem isRepeatable_outputs [DrawingLibrary] (configuration : Configuration)
    (levels : List LevelResults) (style : Style) :
    ∀ output ∈ configuration.outputs levels style, output.IsRepeatable :=
  Configuration.forall_outputs (isRepeatable_elapsedOutput configuration levels style)
    (isRepeatable_speedupOutput configuration levels style) (isRepeatable_summary levels)

end Output

/-! ### Preparing again -/

section

variable [DrawingLibrary]

namespace Style

omit [DrawingLibrary] in
/-- A font that was registered is the registered one from then on, and nothing is reported. -/
theorem isRegistered_of_registerBy {accepts : List UInt8 → Bool} {path : Path}
    {workspace after : Workspace}
    (registered : (registerBy accepts path).run workspace = (.ok (), after)) :
    isRegistered after.font path = true ∧ after.events = workspace.events := by
  have own (bytes : List UInt8) : isRegistered (some (Font.mk path bytes)) path = true := by
    simp [isRegistered, Path.same]
  rcases registerBy_cases accepts path workspace with
    ⟨already, run⟩ | ⟨bytes, run⟩ | ⟨failure, run⟩
  · obtain ⟨-, rfl⟩ := Prod.mk.inj (run.symm.trans registered)
    exact ⟨already, rfl⟩
  · obtain ⟨-, rfl⟩ := Prod.mk.inj (run.symm.trans registered)
    exact ⟨own bytes, rfl⟩
  · cases run.symm.trans registered

/-- Where the font that a run chose is still registered, and no known font appeared or
vanished, the same style is chosen, and only reported. -/
theorem withFont_again {font : Option Path} {workspace after : Workspace} {style : Style}
    (chosen : (withFont font).run workspace = (.ok style, after)) (other : Workspace)
    (sameFont : other.font = after.font)
    (sameKnown : font = none → ∀ path ∈ knownFonts,
      other.tree.isFile other.working path = workspace.tree.isFile workspace.working path) :
    ∃ added, after.events = workspace.events ++ added ∧
      (withFont font).run other = (.ok style, other.reporting added) := by
  have sameChoice :
      (font <|> knownFonts.find? fun path => other.tree.isFile other.working path) =
        (font <|> knownFonts.find? fun path => workspace.tree.isFile workspace.working path) := by
    cases font with
    | some path => rfl
    | none => exact List.find?_congr (sameKnown rfl)
  rw [run_withFont] at chosen ⊢
  rw [sameChoice]
  generalize (font <|> knownFonts.find? fun path => workspace.tree.isFile workspace.working path)
    = choice at chosen
  cases choice with
  | none =>
    obtain ⟨same, rfl⟩ := Prod.mk.inj chosen
    exact ⟨[.noFont], rfl, by rw [Except.ok.inj same]⟩
  | some path =>
    simp only at chosen ⊢
    rcases run : (registerBy DrawingLibrary.accepts path).run workspace with
      ⟨failure | _, between⟩
    · simp [run] at chosen
    · rw [run] at chosen
      obtain ⟨same, rfl⟩ := Prod.mk.inj chosen
      obtain ⟨registered, silent⟩ := isRegistered_of_registerBy run
      have still : isRegistered other.font path = true := sameFont ▸ registered
      refine ⟨[.chartFont path], ?_, ?_⟩
      · rw [Workspace.events_reporting, silent]
      · rw [run_registerBy, if_pos still, Except.ok.inj same]

end Style

/-- What preparing a run comes to. -/
theorem run_prepare (configuration : Configuration) (workspace : Workspace) :
    (prepare configuration).run workspace =
      let loaded := workspace.reporting ((loadLevels configuration).reports workspace)
      match configuration.check, (loadLevels configuration).result workspace with
      | .error failure, _ => (.error failure, workspace)
      | .ok _, .error failure => (.error failure, loaded)
      | .ok _, .ok levels =>
        match (Style.withFont configuration.font).run loaded with
        | (.error failure, after) => (.error failure, after)
        | (.ok style, after) => (.ok (levels, style), after) := by
  rw [prepare, Action.run_bind, Action.run_ofResult]
  cases configuration.check with
  | error failure => rfl
  | ok _ =>
    simp only
    rw [Action.run_bind, (loadLevels_onlyLooks configuration).run_result]
    cases (loadLevels configuration).result workspace with
    | error failure => rfl
    | ok levels =>
      simp only
      rw [Action.run_bind]
      rcases (Style.withFont configuration.font).run (workspace.reporting
        ((loadLevels configuration).reports workspace)) with ⟨_ | _, after⟩ <;> rfl

/-- Where files were stored that nothing is prepared from, and the font that was chosen is
registered, the same is prepared again, with the same reports. -/
theorem prepare_again {configuration : Configuration} {before between other : Workspace}
    {levels : List LevelResults} {style : Style} {files : List (Location × Content)}
    (ready : (prepare configuration).run before = (.ok (levels, style), between))
    (received : before.Received other files) (sameFont : other.font = between.font)
    (outside : ∀ level ∈ configuration.levels,
      before.Outside (configuration.levelDirectory level) files)
    (sameKnown : configuration.font = none → ∀ path ∈ Style.knownFonts,
      other.tree.isFile other.working path = before.tree.isFile before.working path) :
    ∃ added, between.events = before.events ++ added ∧
      (prepare configuration).run other = (.ok (levels, style), other.reporting added) := by
  rw [run_prepare] at ready ⊢
  cases checked : configuration.check with
  | error failure => simp [checked] at ready
  | ok _ =>
    cases loaded : (loadLevels configuration).result before with
    | error failure => simp [checked, loaded] at ready
    | ok own =>
      have alike := loadLevels_alike_received received outside loaded
      rw [alike.result_eq, alike.reports_eq, loaded]
      simp only [checked, loaded] at ready ⊢
      rcases run : (Style.withFont configuration.font).run (before.reporting
        ((loadLevels configuration).reports before)) with ⟨failure | chosen, after⟩
      · simp [run] at ready
      · simp only [run, Prod.mk.injEq, Except.ok.injEq] at ready
        obtain ⟨⟨rfl, rfl⟩, rfl⟩ := ready
        obtain ⟨added, reported, again⟩ := Style.withFont_again run
          (other.reporting ((loadLevels configuration).reports before)) sameFont sameKnown
        refine ⟨(loadLevels configuration).reports before ++ added, ?_, ?_⟩
        · rw [reported, Workspace.events_reporting, List.append_assoc]
        · rw [again, Workspace.reporting_reporting]

/-! ### The whole run again -/

/-- A run that succeeds prepares everything and leaves the deposits of its outputs. -/
theorem exists_deposits_of_generateAll {configuration : Configuration} {before : Workspace}
    {levels : List LevelResults}
    (generated : (generateAll configuration).result before = .ok levels) :
    ∃ style between deposits,
      (prepare configuration).run before = (.ok (levels, style), between) ∧
      List.Forall₂ (Output.Leaves between) (configuration.outputs levels style) deposits := by
  rw [Action.result, run_generateAll] at generated
  rcases ready : (prepare configuration).run before with ⟨_ | ⟨loaded, style⟩, between⟩
  · simp [ready] at generated
  · rw [ready] at generated
    simp only at generated
    rcases writing : (Output.writeAll (configuration.outputs loaded style)).run between
      with ⟨_ | _, after⟩
    · simp [writing] at generated
    · rw [writing] at generated
      obtain rfl := Except.ok.inj generated
      have written : (Output.writeAll (configuration.outputs loaded style)).result between =
          .ok () := by rw [Action.result, writing]
      obtain ⟨deposits, leave⟩ :=
        Output.exists_leaves (Output.isRepeatable_outputs configuration loaded style) written
      exact ⟨style, between, deposits, rfl, leave⟩

/-- A prepared run whose outputs leave deposits leaves them and gives its levels. -/
theorem run_generateAll_of_leaves {configuration : Configuration} {before between : Workspace}
    {levels : List LevelResults} {style : Style} {deposits : List Deposit}
    (ready : (prepare configuration).run before = (.ok (levels, style), between))
    (leave : List.Forall₂ (Output.Leaves between) (configuration.outputs levels style) deposits) :
    (generateAll configuration).run before = (.ok levels, between.receiving deposits) := by
  rw [run_generateAll, ready]
  simp only
  rw [Output.run_writeAll leave]

/-- Each deposit of a run is left in the place of the file of an output. -/
theorem exists_outputPath_of_leaves {configuration : Configuration} {workspace : Workspace}
    {levels : List LevelResults} {style : Style} {deposits : List Deposit}
    (leave : List.Forall₂ (Output.Leaves workspace) (configuration.outputs levels style) deposits) :
    ∀ file ∈ deposits.map Deposit.file, ∃ path ∈ configuration.outputPaths,
      workspace.tree.target workspace.working path = .ok file.1 := by
  refine List.forall_mem_map.2 fun deposit member => ?_
  obtain ⟨output, listed, leaves⟩ := Output.exists_output_of_leaves leave deposit member
  rw [← configuration.path_outputs levels style]
  exact ⟨output.path, List.mem_map_of_mem listed, leaves.place⟩

omit [DrawingLibrary] in
/-- The known fonts have names that entries can have. -/
theorem Style.knownFonts_named : ∀ font ∈ knownFonts, ∃ above name,
    font.pieces = above ++ [name] ∧ isEntryName name := by
  have checked : knownFonts.all fun font => font.pieces.getLast?.any isEntryName := by
    decide +kernel
  intro font member
  obtain ⟨name, ends, named⟩ := (Option.any_eq_true _ _).1 (List.all_eq_true.1 checked font member)
  obtain ⟨above, cut⟩ := List.getLast?_eq_some_iff.1 ends
  exact ⟨above, name, cut, named⟩

/-- A second run after one that succeeded also succeeds and gives the same levels. It reports
again what the first one reported and leaves everything else as it is, if no output is stored
in a variant directory of a level or, where a font is looked for, at a known place for one. -/
theorem generateAll_again (configuration : Configuration) (before : Workspace)
    (levels : List LevelResults)
    (generated : (generateAll configuration).result before = .ok levels)
    (outside : ∀ level ∈ configuration.levels, ∀ (variant : Variant) (directory : Location),
      before.tree.resolve before.working
        ((configuration.levelDirectory level).child variant.directoryName) = .ok directory →
      ∀ path ∈ configuration.outputPaths, ∀ name,
        before.tree.target before.working path ≠ .ok (directory ++ [name]))
    (fontless : configuration.font = none → ∀ font ∈ Style.knownFonts,
      ∀ path ∈ configuration.outputPaths, ∀ location,
        before.tree.target before.working path = .ok location →
        before.tree.target before.working font ≠ .ok location) :
    let after := ((generateAll configuration).run before).2
    ∃ added, after.events = before.events ++ added ∧
      (generateAll configuration).run after = (.ok levels, after.reporting added) := by
  intro after
  obtain ⟨style, between, deposits, ready, leave⟩ := exists_deposits_of_generateAll generated
  have same := prepare_keepsFiles configuration before
  rw [ready] at same
  have sameTree : between.tree = before.tree := same.tree_eq
  have sameWorking : between.working = before.working := same.working_eq
  have ends : after = between.receiving deposits :=
    congrArg Prod.snd (run_generateAll_of_leaves ready leave)
  have left := exists_outputPath_of_leaves leave
  have places := Output.arePlaces_of_leaves leave
  rw [sameTree, sameWorking] at left
  rw [sameTree] at places
  have received : before.Received after (deposits.map Deposit.file) := by
    rw [ends]
    exact ⟨by rw [Workspace.receiving, sameTree], sameWorking, places⟩
  -- What the outputs left lies where preparing does not look.
  have apart : ∀ level ∈ configuration.levels,
      before.Outside (configuration.levelDirectory level) (deposits.map Deposit.file) := by
    intro level member variant directory reached file stored name here
    obtain ⟨path, listed, place⟩ := left file stored
    exact outside level member variant directory reached path listed name (here ▸ place)
  have sameKnown : configuration.font = none → ∀ font ∈ Style.knownFonts,
      after.tree.isFile after.working font = before.tree.isFile before.working font := by
    intro unset font known
    obtain ⟨above, name, cut, named⟩ := Style.knownFonts_named font known
    rw [received.tree_eq, received.working_eq]
    refine FileTree.isFile_storeAll places cut named fun file stored => ?_
    obtain ⟨path, listed, place⟩ := left file stored
    exact fontless unset font known path listed file.1 place
  have sameFont : after.font = between.font := by
    rw [ends]
    rfl
  obtain ⟨prepared, reported, again⟩ := prepare_again ready received sameFont apart sameKnown
  -- So the same outputs are written once more, over what they left.
  have leaveAgain : List.Forall₂ (Output.Leaves (after.reporting prepared))
      (configuration.outputs levels style) deposits := by
    refine leave.imp fun _ _ leaves => leaves.transfer (congrArg (Option.map Font.bytes) sameFont)
      fun path location reached => ?_
    rw [sameTree, sameWorking] at reached
    change after.tree.target after.working path = .ok location
    rw [received.tree_eq, received.working_eq]
    exact (FileTree.target_storeAll_iff places before.working path location).2 reached
  have sameTreeAgain : after.tree.storeAll (deposits.map Deposit.file) = after.tree := by
    rw [received.tree_eq]
    exact FileTree.storeAll_storeAll fun file stored => (places file stored).1
  refine ⟨prepared ++ deposits.flatMap Deposit.events, ?_, ?_⟩
  · rw [ends, Workspace.receiving, reported, List.append_assoc]
  · rw [run_generateAll_of_leaves again leaveAgain, ← Workspace.reporting_reporting,
      Workspace.receiving]
    simp only [Workspace.reporting, sameTreeAgain]

end

/-- A configuration whose outputs lie in the directory of its level, two of them in one file. -/
def Configuration.crowded : Configuration where
  levels := [.O0]
  output :=
    { registerElapsed := ⟨"data/GCC/O0/elapsed.png"⟩
      stackElapsed := ⟨"data/GCC/O0/elapsed.png"⟩
      unionSpeedup := ⟨"data/GCC/O0/speedup.bmp"⟩
      summary := some ⟨"data/GCC/O0/summary.csv"⟩ }

/-- Charts and a summary beside the variant directories of a level are no results of it. -/
theorem generateAll_again_crowded :
    ∃ levels, (generateAll .crowded).result .oneLevel = .ok levels ∧
      let after := ((generateAll .crowded).run .oneLevel).2
      (generateAll .crowded).run after = (.ok levels, after.reporting after.events) := by
  obtain ⟨levels, generated⟩ : ∃ levels, (generateAll .crowded).result .oneLevel = .ok levels :=
    exists_of_isOk (by decide +kernel)
  -- The outputs lie directly in the directory of the level, and no known font does.
  have places : ∀ path ∈ Configuration.crowded.outputPaths,
      (Workspace.oneLevel.tree.target Workspace.oneLevel.working path).map List.length =
        .ok 4 := by decide +kernel
  have fonts : ∀ font ∈ Style.knownFonts,
      (Workspace.oneLevel.tree.target Workspace.oneLevel.working font).map List.length ≠
        .ok 4 := by decide +kernel
  have directories (variant : Variant) :
      Workspace.oneLevel.tree.resolve Workspace.oneLevel.working
        ((Configuration.crowded.levelDirectory .O0).child variant.directoryName) =
          .ok ["data", "GCC", "O0", variant.directoryName] := by
    rcases variant with ⟨_ | _, _ | _⟩ <;> decide +kernel
  obtain ⟨added, reported, again⟩ := generateAll_again .crowded .oneLevel levels generated
    (by
      intro level member variant directory reached path listed name place
      obtain rfl : level = .O0 := by simpa [Configuration.crowded] using member
      obtain rfl := Except.ok.inj ((directories variant).symm.trans reached)
      simpa [place, Except.map] using places path listed)
    (by
      intro _ font known path listed location reached same
      exact fonts font known (same.trans reached.symm ▸ places path listed))
  obtain rfl : _ = added := reported
  exact ⟨levels, generated, again⟩

end BenchFigures
