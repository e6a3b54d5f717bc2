import BenchFigures.Proofs.Loading
import BenchFigures.Proofs.StoredFiles

/-!
# Looking at two workspaces

An action that only looks is alike on two workspaces if it gives and reports the same on
both. What it does after a look depends only on what it saw, so it is alike as soon as
every look sees the same.

Loading looks at the entries of the variant directories and at the result file found in
each, and at nothing else. So it is alike on a workspace and on one where files were
stored outside these directories.
-/

namespace BenchFigures

namespace Action

variable {α β : Type}

/-- An action only looks, and gives and reports the same on two workspaces. -/
structure Alike (action : Action α) (workspace other : Workspace) : Prop where
  looks : action.OnlyLooks
  result_eq : action.result other = action.result workspace
  reports_eq : action.reports other = action.reports workspace

/-- An action does not look at all: it is alike on all workspaces. -/
def Blind (action : Action α) : Prop := ∀ workspace other, action.Alike workspace other

namespace Blind

theorem pure (value : α) : (Pure.pure value : Action α).Blind :=
  fun _ _ => ⟨.pure value, rfl, rfl⟩

theorem fail (cause : Cause) : (Action.fail cause : Action α).Blind :=
  fun _ _ => ⟨.fail cause, rfl, rfl⟩

theorem ofExcept {ε : Type} (cause : ε → Cause) (computed : Except ε α) :
    (Action.ofExcept cause computed).Blind :=
  fun _ _ => ⟨.ofExcept cause computed, by simp [result], by simp [reports, Workspace.fresh]⟩

theorem ofResult (computed : Except Failure α) : (Action.ofResult computed).Blind :=
  fun _ _ => ⟨.ofResult computed, by simp [result], by simp [reports, Workspace.fresh]⟩

theorem report (event : Event) (unsaved : ∀ path, event ≠ .saved path) :
    (Action.report event).Blind :=
  fun _ _ => ⟨.report event unsaved, rfl, rfl⟩

end Blind

namespace Alike

variable {workspace other : Workspace}

/-- Looks that see the same are alike. -/
theorem look {question : FileTree → Location → α}
    (same : question other.tree other.working = question workspace.tree workspace.working) :
    (Action.look question).Alike workspace other :=
  ⟨.look question, congrArg Except.ok same, rfl⟩

/-- Naming the circumstance of a failure does not change what is seen. -/
theorem during {action : Action α} (alike : action.Alike workspace other)
    (circumstance : Circumstance) : (action.during circumstance).Alike workspace other := by
  refine ⟨alike.looks.during circumstance, ?_, alike.reports_eq⟩
  have rephrased (place : Workspace) : (action.during circumstance).result place =
      (action.result place).mapError (Failure.during circumstance) := rfl
  rw [rephrased, rephrased, alike.result_eq]

/-- Two parts are alike together if the second is so for what the first one gives. -/
theorem bind {first : Action α} {next : α → Action β} (alike : first.Alike workspace other)
    (nextLooks : ∀ value, (next value).OnlyLooks)
    (nextAlike : ∀ value, first.result workspace = .ok value →
      (next value).Alike workspace other) :
    Alike (first >>= next) workspace other := by
  refine ⟨alike.looks.bind nextLooks, ?_, ?_⟩
  · rw [alike.looks.result_bind nextLooks, alike.looks.result_bind nextLooks, alike.result_eq]
    cases given : first.result workspace with
    | error failure => rfl
    | ok value => exact (nextAlike value given).result_eq
  · rw [alike.looks.reports_bind nextLooks, alike.looks.reports_bind nextLooks, alike.result_eq,
      alike.reports_eq]
    cases given : first.result workspace with
    | error failure => rfl
    | ok value => simp only [(nextAlike value given).reports_eq]

/-- What is done without looking again adds no difference. -/
theorem bind_blind {first : Action α} {next : α → Action β} (alike : first.Alike workspace other)
    (blind : ∀ value, (next value).Blind) : Alike (first >>= next) workspace other :=
  alike.bind (fun value => (blind value workspace workspace).looks)
    fun value _ => blind value workspace other

/-- Looking once for each element of a list is alike if each of the looks is. -/
theorem mapM {action : β → Action α} (looks : ∀ element, (action element).OnlyLooks)
    {list : List β} (alike : ∀ element ∈ list, (action element).Alike workspace other) :
    Alike (list.mapM action) workspace other := by
  induction list with
  | nil => exact Blind.pure [] workspace other
  | cons element rest inductionHypothesis =>
    obtain ⟨alikeHere, alikeRest⟩ := List.forall_mem_cons.1 alike
    rw [List.mapM_cons]
    exact alikeHere.bind (fun _ => (OnlyLooks.mapM looks rest).bind fun _ => .pure _) fun _ _ =>
      (inductionHypothesis alikeRest).bind_blind fun _ => .pure _

/-- Looking once for each variant is alike if each of the looks is. -/
theorem forEach {action : Variant → Action α}
    (alike : ∀ variant, (action variant).Alike workspace other) :
    Alike (PerVariant.forEach action) workspace other := by
  have looks (variant : Variant) := (alike variant).looks
  unfold PerVariant.forEach
  refine (alike _).bind (fun _ => (looks _).bind fun _ => (looks _).bind fun _ =>
    (looks _).bind fun _ => .pure _) fun _ _ => ?_
  refine (alike _).bind (fun _ => (looks _).bind fun _ => (looks _).bind fun _ => .pure _)
    fun _ _ => ?_
  refine (alike _).bind (fun _ => (looks _).bind fun _ => .pure _) fun _ _ => ?_
  exact (alike _).bind_blind fun _ => .pure _

end Alike

namespace Blind

/-- Naming the circumstance of a failure needs no look. -/
theorem during {action : Action α} (blind : action.Blind) (circumstance : Circumstance) :
    (action.during circumstance).Blind :=
  fun workspace other => (blind workspace other).during circumstance

/-- Two parts that do not look do not look together. -/
theorem bind {first : Action α} {next : α → Action β} (blind : first.Blind)
    (nextBlind : ∀ value, (next value).Blind) : Blind (first >>= next) :=
  fun workspace other => (blind workspace other).bind_blind nextBlind

end Blind

end Action

open BenchFigures.Action (Alike Blind)

/-! ### Finding and reading -/

/-- Finding a result file is alike where the same entries are listed. -/
theorem ResultDirectory.findFile_alike {workspace other : Workspace} {directory : Path}
    (same : other.tree.list other.working directory =
      workspace.tree.list workspace.working directory) :
    (findFile directory).Alike workspace other := by
  refine (Alike.look same).bind_blind fun listing => ?_
  refine ((Blind.ofExcept _ _).during _).bind fun entries => ?_
  exact (Blind.ofExcept _ _).bind fun _ => (Blind.report _ (by simp)).bind fun _ => .pure _

/-- Reading a result file is alike where the same is found. -/
theorem ResultFile.read_alike {workspace other : Workspace} {file : Path}
    (same : other.tree.find other.working file = workspace.tree.find workspace.working file) :
    (read file).Alike workspace other := by
  have opened : (open? file).Alike workspace other := by
    refine (Alike.look same).bind_blind fun found => ?_
    rcases found with fault | _ | content
    · exact (Blind.fail _).during _
    · exact (Blind.fail _).during _
    · exact .pure _
  refine opened.bind_blind fun bytes => (Blind.ofResult _).bind fun runs => ?_
  exact (Blind.report _ (by simp)).bind fun _ => (Blind.ofExcept _ _).during _

/-- Comparing with a baseline looks at no file. -/
theorem Aggregate.compareWith_blind (aggregate baseline : Aggregate Float) :
    (aggregate.compareWith baseline).Blind := by
  rw [compareWith]
  refine (Blind.ofExcept _ _).bind fun _ => ?_
  split
  · exact (Blind.report _ (by simp)).bind fun _ => .pure _
  · exact .pure _

/-- Loading a level is alike where the variant directories list the same entries and the same
is found at the result files. -/
theorem LevelResults.load_alike {workspace other : Workspace} {level : OptimizationLevel}
    {directory : Path}
    (sameEntries : ∀ variant : Variant,
      other.tree.list other.working (directory.child variant.directoryName) =
        workspace.tree.list workspace.working (directory.child variant.directoryName))
    (sameFiles : ∀ files, (ResultDirectory.discover directory).result workspace = .ok files →
      ∀ variant, other.tree.find other.working (files.get variant) =
        workspace.tree.find workspace.working (files.get variant)) :
    (load level directory).Alike workspace other := by
  have compares (aggregates : PerVariant (Aggregate Float)) :=
    (ofAggregates_onlyLooks level aggregates).bind fun results =>
      (Action.OnlyLooks.report (.unionSpeedup level
        (results.aggregates.unionRegister.speedup.getD 0.0)
        (results.aggregates.unionStack.speedup.getD 0.0)) (by simp)).bind fun _ => .pure results
  have comparesBlindly (aggregates : PerVariant (Aggregate Float)) :
      (ofAggregates level aggregates).Blind :=
    (Aggregate.compareWith_blind _ _).bind fun _ =>
      (Aggregate.compareWith_blind _ _).bind fun _ => .pure _
  have discovered : (ResultDirectory.discover directory).Alike workspace other :=
    Alike.forEach fun variant => ResultDirectory.findFile_alike (sameEntries variant)
  refine (discovered.during _).bind (fun files =>
    (Action.OnlyLooks.forEach (readAll_onlyLooks level files)).bind compares) ?_
  intro files found
  have found := (mapError_eq_ok_iff _ _ _).1 found
  have readEach (variant : Variant) :=
    ((ResultFile.read_alike (sameFiles files found variant)).during
      (.loading level variant)).bind_blind
        fun sample => Blind.pure (Aggregate.ofSample sample)
  refine (Alike.forEach readEach).bind compares fun aggregates _ => ?_
  exact (comparesBlindly aggregates).bind (fun _ => (Blind.report _ (by simp)).bind
    fun _ => .pure _) workspace other

/-! ### Files stored elsewhere -/

/-- An entry of a directory is one step below where the path of the directory leads. -/
theorem FileTree.resolve_child {tree : FileTree} {working above location : Location} {base : Path}
    {directory name : String} (directoryNamed : isEntryName directory) (named : isEntryName name)
    (aboveReached : tree.resolve working (base.child directory) = .ok above)
    (reached : tree.resolve working ((base.child directory).child name) = .ok location) :
    location = above ++ [name] := by
  rw [resolve] at aboveReached reached
  obtain ⟨_, -, followed⟩ := (bind_eq_ok_iff _ _ _).1 reached
  obtain ⟨_, -, aboveFollowed⟩ := (bind_eq_ok_iff _ _ _).1 aboveReached
  have start : origin working ((base.child directory).child name) =
      origin working (base.child directory) := by
    rw [origin, origin, Path.child, Path.isAbsolute_join _ named]
  have longer : ((base.child directory).child name).pieces =
      (base.child directory).pieces ++ [name] := by
    have stem : (base.child directory).stem = (base.child directory).pieces :=
      (Path.stem_join base directoryNamed).trans (Path.pieces_join base directoryNamed).symm
    exact stem ▸ Path.pieces_join (base.child directory) named
  rw [start, longer, walk_append] at followed
  obtain ⟨middle, walked, further⟩ := (bind_eq_ok_iff _ _ _).1 followed
  obtain rfl : middle = above := Except.ok.inj (walked.symm.trans aboveFollowed)
  exact walk_names (by simpa using named) further

/-- A workspace is another one in which files were stored. -/
structure Workspace.Received (workspace other : Workspace) (files : List (Location × Content)) :
    Prop where
  tree_eq : other.tree = workspace.tree.storeAll files
  working_eq : other.working = workspace.working
  places : workspace.tree.ArePlaces files

/-- No file is stored in a variant directory of a level. -/
def Workspace.Outside (workspace : Workspace) (directory : Path)
    (files : List (Location × Content)) : Prop :=
  ∀ (variant : Variant) (above : Location),
    workspace.tree.resolve workspace.working (directory.child variant.directoryName) = .ok above →
    ∀ file ∈ files, ∀ name, file.1 ≠ above ++ [name]

/-- A result file that provides a sample is an entry of its directory, which can be listed. -/
theorem LevelResults.Provides.exists_listed {workspace : Workspace} {directory file : Path}
    {variant : Variant} {sample : Sample Float}
    (provided : Provides workspace directory variant file sample) :
    ∃ above entries name, workspace.tree.resolve workspace.working
        (directory.child variant.directoryName) = .ok above ∧
      workspace.tree.list workspace.working (directory.child variant.directoryName) =
        .ok entries ∧
      isEntryName name ∧ file = (directory.child variant.directoryName).child name := by
  obtain ⟨entries, name, content, listed, only, place⟩ := provided.only
  have member := List.mem_singleton_self (name, Entry.file content)
  rw [← only] at member
  have named := FileTree.named_of_mem_list listed (List.mem_of_mem_filter member)
  have whole := listed
  rw [FileTree.list] at whole
  obtain ⟨above, reached, -⟩ := (bind_eq_ok_iff _ _ _).1 whole
  exact ⟨above, entries, name, reached, listed, named, place⟩

/-- Loading a level is alike after files were stored outside its variant directories. -/
theorem LevelResults.load_alike_received {workspace other : Workspace}
    {files : List (Location × Content)} {level : OptimizationLevel} {directory : Path}
    {results : LevelResults} (received : workspace.Received other files)
    (outside : workspace.Outside directory files)
    (loaded : (load level directory).result workspace = .ok results) :
    (load level directory).Alike workspace other := by
  obtain ⟨found, samples, provided, -⟩ := (load_eq_ok_iff level directory workspace _).1 loaded
  refine load_alike ?_ ?_
  · intro variant
    obtain ⟨above, entries, -, reached, listed, -⟩ := (provided variant).exists_listed
    rw [received.tree_eq, received.working_eq, listed]
    exact FileTree.list_storeAll received.places reached (outside variant above reached) listed
  · intro others discovered variant
    -- The files that were found are the ones that were read.
    have only := (ResultDirectory.result_discover_eq_ok_iff directory found workspace).2
      fun variant => (provided variant).only
    obtain rfl : others = found := Except.ok.inj (discovered.symm.trans only)
    obtain ⟨above, -, name, reached, -, named, place⟩ := (provided variant).exists_listed
    obtain ⟨location, fileReached⟩ := ResultFile.resolve_of_read (provided variant).readable
    have below : location = above ++ [name] := by
      rw [place] at fileReached
      exact FileTree.resolve_child (ResultDirectory.named_directoryName variant) named reached
        fileReached
    rw [received.tree_eq, received.working_eq]
    refine FileTree.find_storeAll received.places fileReached fun stored member => ?_
    rw [below]
    exact outside variant above reached stored member name

/-- Loading all levels is alike after files were stored outside their variant directories. -/
theorem loadLevels_alike_received {configuration : Configuration} {workspace other : Workspace}
    {files : List (Location × Content)} {levels : List LevelResults}
    (received : workspace.Received other files)
    (outside : ∀ level ∈ configuration.levels,
      workspace.Outside (configuration.levelDirectory level) files)
    (loaded : (loadLevels configuration).result workspace = .ok levels) :
    (loadLevels configuration).Alike workspace other := by
  rw [result_loadLevels] at loaded
  have every := (exists_mapM_eq_ok_iff _ _).1 ⟨levels, loaded⟩
  refine (Alike.mapM (fun _ => LevelResults.load_onlyLooks _ _) ?_).bind_blind fun _ =>
    (Blind.report _ (by simp)).bind fun _ => .pure _
  intro level member
  obtain ⟨results, loadedHere⟩ := every level member
  exact LevelResults.load_alike_received received (outside level member) loadedHere

end BenchFigures
