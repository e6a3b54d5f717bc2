import BenchFigures.Proofs.Actions
import BenchFigures.Proofs.FileTrees
import BenchFigures.Proofs.Traversals

/-!
# Finding result files

Finding a result file only looks at the tree. It succeeds exactly if the directory can
be listed and has a single result file, and the file found is an entry of that
directory. So the files of different variants, and those of different levels, are
different files.
-/

namespace BenchFigures.ResultDirectory

/-- A directory can be listed, and its only result file is at a path. -/
def HoldsOnly (tree : FileTree) (working : Location) (directory file : Path) : Prop :=
  ∃ entries name content, tree.list working directory = .ok entries ∧
    (entries.filter fun (name, entry) => isCandidate directory name entry) =
      [(name, .file content)] ∧
    file = directory.child name

/-- The file chosen among some entries is the single result file in them. -/
theorem onlyFile_eq_ok_iff (directory file : Path) (entries : List (String × Entry)) :
    onlyFile directory entries = .ok file ↔
      ∃ name content,
        (entries.filter fun (name, entry) => isCandidate directory name entry) =
            [(name, .file content)] ∧
          file = directory.child name := by
  constructor
  · intro chosen
    rw [onlyFile] at chosen
    split at chosen
    · simp at chosen
    · next name single =>
      obtain rfl : directory.child name = file := by simpa using chosen
      have listed := List.mergeSort_perm
        ((entries.filter fun (name, entry) => isCandidate directory name entry).map Prod.fst)
        (· ≤ ·)
      rw [candidates] at single
      rw [single] at listed
      obtain ⟨⟨other, entry⟩, filtered, rfl⟩ :=
        List.map_eq_singleton_iff.1 (List.singleton_perm.1 listed).symm
      have member : (other, entry) ∈
          entries.filter fun (name, entry) => isCandidate directory name entry := by simp [filtered]
      have candidate : isCandidate directory other entry := (List.mem_filter.1 member).2
      cases entry with
      | directory => simp [isCandidate] at candidate
      | file content => exact ⟨other, content, filtered, rfl⟩
    · simp at chosen
  · rintro ⟨name, content, filtered, rfl⟩
    simp [onlyFile, candidates, filtered]

/-- Finding a result file only looks. -/
theorem findFile_onlyLooks (directory : Path) : (findFile directory).OnlyLooks :=
  (Action.OnlyLooks.look _).bind fun _ =>
    ((Action.OnlyLooks.ofExcept _ _).during _).bind fun _ =>
      (Action.OnlyLooks.ofExcept _ _).bind fun _ =>
        (Action.OnlyLooks.report _ (by simp)).bind fun _ => .pure _

/-- What is found in a directory follows from its entries. Only a file that is found is
reported. -/
theorem run_findFile (directory : Path) (workspace : Workspace) :
    (findFile directory).run workspace =
      match workspace.tree.list workspace.working directory with
      | .error fault =>
        (.error ((Cause.file fault).failure.during (.readingDirectory directory)), workspace)
      | .ok entries =>
        match onlyFile directory entries with
        | .error cause => (.error cause.failure, workspace)
        | .ok file => (.ok file, workspace.reporting [.found file]) := by
  simp only [findFile, Action.result, Action.run_bind, Action.run_look, Action.run_during,
    Action.run_ofExcept, Action.run_report, Action.run_pure]
  cases workspace.tree.list workspace.working directory with
  | error fault => rfl
  | ok entries =>
    simp only [Except.mapError]
    cases onlyFile directory entries <;> rfl

/-- In a directory that can be listed, finding is choosing among its entries. -/
theorem result_findFile_of_list {directory : Path} {workspace : Workspace}
    {entries : List (String × Entry)}
    (listed : workspace.tree.list workspace.working directory = .ok entries) :
    (findFile directory).result workspace =
      (onlyFile directory entries).mapError Cause.failure := by
  simp only [Action.result, run_findFile, listed]
  cases onlyFile directory entries <;> rfl

/-- A directory's result file is found exactly if it is the only one. -/
theorem result_findFile_eq_ok_iff (directory file : Path) (workspace : Workspace) :
    (findFile directory).result workspace = .ok file ↔
      HoldsOnly workspace.tree workspace.working directory file := by
  rw [HoldsOnly]
  cases listed : workspace.tree.list workspace.working directory with
  | error fault => simp [Action.result, run_findFile, listed]
  | ok entries =>
    rw [result_findFile_of_list listed, mapError_eq_ok_iff, onlyFile_eq_ok_iff]
    constructor
    · rintro ⟨name, content, filtered, place⟩
      exact ⟨entries, name, content, rfl, filtered, place⟩
    · rintro ⟨others, name, content, same, filtered, place⟩
      obtain rfl : entries = others := by simpa using same
      exact ⟨name, content, filtered, place⟩

/-- Finding all result files of a level only looks. -/
theorem discover_onlyLooks (directory : Path) : (discover directory).OnlyLooks :=
  .forEach fun variant => findFile_onlyLooks (directory.child variant.directoryName)

/-- All result files of a level are found exactly if each variant has a single one. -/
theorem result_discover_eq_ok_iff (directory : Path) (files : PerVariant Path)
    (workspace : Workspace) :
    (discover directory).result workspace = .ok files ↔
      ∀ variant, HoldsOnly workspace.tree workspace.working
        (directory.child variant.directoryName) (files.get variant) := by
  rw [discover, Action.OnlyLooks.result_forEach fun variant => findFile_onlyLooks _,
    PerVariant.forEach_eq_ok_iff]
  simp only [result_findFile_eq_ok_iff]

/-- Otherwise the first variant without a single one decides the failure. -/
theorem result_discover_eq_error_iff (directory : Path) (failure : Failure)
    (workspace : Workspace) :
    (discover directory).result workspace = .error failure ↔
      ∃ earlier variant later, Variant.all = earlier ++ variant :: later ∧
        (∀ other ∈ earlier, ∃ file, HoldsOnly workspace.tree workspace.working
          (directory.child other.directoryName) file) ∧
        (findFile (directory.child variant.directoryName)).result workspace = .error failure := by
  rw [discover, Action.OnlyLooks.result_forEach fun variant => findFile_onlyLooks _,
    PerVariant.forEach_eq_error_iff]
  simp only [result_findFile_eq_ok_iff]

/-- The names of variant directories are names of entries. -/
theorem named_directoryName (variant : Variant) : isEntryName variant.directoryName := by
  rcases variant with ⟨decoding, encoding⟩
  cases decoding <;> cases encoding <;> decide

/-- The names of levels are names of entries. -/
theorem named_levelName (level : OptimizationLevel) : isEntryName level.name := by
  cases level <;> decide

/-- The result file of a variant at a level lies three steps below where all results
are, and these steps name the level and the variant. -/
theorem HoldsOnly.location {tree : FileTree} {working location : Location} {base file : Path}
    {level : OptimizationLevel} {variant : Variant}
    (only : HoldsOnly tree working
      ((base.join ⟨level.name⟩).child variant.directoryName) file)
    (reached : tree.resolve working file = .ok location) :
    ∃ above name, location = above ++ [level.name, variant.directoryName, name] := by
  obtain ⟨entries, name, content, listed, filtered, rfl⟩ := only
  have member := filtered ▸ List.mem_singleton_self (name, Entry.file content)
  have nameNamed := FileTree.named_of_mem_list listed (List.mem_filter.1 member).1
  have levelNamed := named_levelName level
  have variantNamed := named_directoryName variant
  have pieces : (((base.join ⟨level.name⟩).child variant.directoryName).child name).pieces =
      base.stem ++ [level.name, variant.directoryName, name] := by
    simp only [Path.child]
    rw [Path.pieces_join _ nameNamed, Path.stem_join _ variantNamed, Path.stem_join _ levelNamed]
    simp
  rw [FileTree.resolve] at reached
  cases guarded : FileTree.guardPath
      (((base.join ⟨level.name⟩).child variant.directoryName).child name) with
  | error fault => simp [guarded, bind, Except.bind] at reached
  | ok _ =>
    simp only [guarded, bind, Except.bind, pieces, FileTree.walk_append] at reached
    split at reached
    · simp at reached
    · next above followed =>
      refine ⟨above, name, FileTree.walk_names ?_ reached⟩
      simp [levelNamed, variantNamed, nameNamed]

end BenchFigures.ResultDirectory
