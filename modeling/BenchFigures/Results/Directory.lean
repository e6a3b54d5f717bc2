import BenchFigures.Workspace

/-!
# Result directories

The results of one level stand in four directories, one for each variant, and each
of those holds exactly one result file. Entries that are no files or have another
extension do not count, nor do files that cannot be looked at because their path is too
long. The order in which a directory is listed has no influence: candidates are sorted
by name.
-/

namespace BenchFigures.ResultDirectory

/-- Whether an entry of a directory is a result file: a file with the extension of results,
and with a path that can be followed. -/
def isCandidate (directory : Path) (name : String) (entry : Entry) : Bool :=
  (entry matches .file _) && Path.extensionOf? name = some resultExtension &&
    (FileTree.guardPath (directory.child name)).isOk

/-- The names of the result files among the entries of a directory, sorted. -/
def candidates (directory : Path) (entries : List (String × Entry)) : List String :=
  ((entries.filter fun (name, entry) => isCandidate directory name entry).map
    Prod.fst).mergeSort (· ≤ ·)

/-- The only result file of a directory. -/
def onlyFile (directory : Path) (entries : List (String × Entry)) : Except Cause Path :=
  match candidates directory entries with
  | [] => .error (.noResultFile directory)
  | [name] => .ok (directory.child name)
  | names => .error (.severalResultFiles directory (names.map directory.child))

/-- Find the result file of a directory. -/
def findFile (directory : Path) : Action Path := do
  let listing ← Action.look fun tree working => tree.list working directory
  let entries ← (Action.ofExcept .file listing).during (.readingDirectory directory)
  let file ← Action.ofExcept id (onlyFile directory entries)
  Action.report (.found file)
  return file

/-- Find the result files of all variants, in their fixed order. -/
def discover (directory : Path) : Action (PerVariant Path) :=
  PerVariant.forEach fun variant => findFile (directory.child variant.directoryName)

end BenchFigures.ResultDirectory
