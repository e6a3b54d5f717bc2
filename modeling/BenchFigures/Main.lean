import BenchFigures.CommandLine

/-!
# The program

The command line works on a file tree. Here the files of the machine that a run
may look at are read into such a tree, and what the run changed in it is written
back.
-/

namespace BenchFigures.Program

/-- A location as the machine names it. -/
def placeOf (location : Location) : String := "/" ++ "/".intercalate location

/-- What the machine holds at a location. -/
def entryAt (location : Location) : IO (Option Entry) := do
  match ← (IO.FS.realPath (placeOf location)).toBaseIO with
  | .error _ => return none
  | .ok place =>
    if ← place.isDir then return some .directory
    else return some (.file (.plain (← IO.FS.readBinFile place).toList))

/-- Read what stands at a location into a tree. -/
def gather (tree : FileTree) (location : Location) : IO FileTree := do
  match tree.entry? location, ← entryAt location with
  | none, some entry => return tree.put location entry
  | _, _ => return tree

/-- Where a piece of a path leads from a location. -/
def descend (location : Location) (piece : String) : Location :=
  if piece = "" ∨ piece = "." then location
  else if piece = ".." then location.dropLast
  else location ++ [piece]

/-- Read whatever a path leads through into a tree. The result has the location at
its end. -/
def follow (working : Location) (tree : FileTree) (path : Path) : IO (FileTree × Location) :=
  path.pieces.foldlM (fun (gathered, location) piece => do
    let next := descend location piece
    return (← gather gathered next, next)) (tree, FileTree.origin working path)

/-- Read a directory and what is in it into a tree. -/
def openDirectory (working : Location) (tree : FileTree) (path : Path) : IO FileTree := do
  let (gathered, location) ← follow working tree path
  match gathered.entry? location with
  | some .directory =>
    let place ← IO.FS.realPath (placeOf location)
    (← place.readDir).foldlM (fun more found => gather more (location ++ [found.fileName])) gathered
  | _ => return gathered

/-- Read whatever a run with a configuration may look at into a tree. -/
def prepare (configuration : Configuration) (working : Location) (tree : FileTree) :
    IO FileTree := do
  let directories := configuration.levels.flatMap fun level =>
    Variant.all.map fun variant =>
      (configuration.levelDirectory level).child variant.directoryName
  let withResults ← directories.foldlM (openDirectory working) tree
  let output := configuration.output
  let fonts := (configuration.font.map ([·])).getD Style.knownFonts
  let files := fonts ++ [output.registerElapsed, output.stackElapsed, output.unionSpeedup] ++
    output.summary.toList
  files.foldlM (fun gathered path => Prod.fst <$> follow working gathered path) withResults

/-- Read whatever a run with some options may look at into a tree. -/
def load (options : Options) (working : Location) (tree : FileTree) : IO FileTree := do
  let withFile ← match options.configuration with
    | some path => Prod.fst <$> follow working tree path
    | none => pure tree
  match (CommandLine.configurationOf options).run ⟨withFile, working, none, []⟩ with
  | (.ok configuration, _) => prepare configuration working withFile
  | (.error _, _) => return withFile

/-- Write the files that differ between two trees. -/
def store (before after : FileTree) : IO Unit :=
  after.entries.forM fun (location, entry) => do
    match entry with
    | .directory => return ()
    | .file content =>
      unless before.entry? location = some entry do
        IO.FS.writeBinFile (placeOf location) content.toBytes.toByteArray

/-- A time in milliseconds. -/
def shownTime (nanoseconds : Nat) : String :=
  Decimal.fixed 3 (nanoseconds.toFloat / 1000000.0) ++ " ms"

/-- Run the command line on the files of the machine. -/
def run (arguments : List String) : IO UInt32 := do
  let start ← IO.monoNanosNow
  let (root, working) ← follow [] FileTree.empty ⟨(← IO.currentDir).toString⟩
  let tree ← match Options.read arguments with
    | .ok (.figures options) => load options working root
    | _ => pure root
  let finish ← IO.monoNanosNow
  let (outcome, after) := CommandLine.run arguments tree working
  store tree after
  (outcome.output (shownTime (finish - start))).forM IO.println
  outcome.complaint.forM IO.eprintln
  return UInt32.ofNat outcome.code

end BenchFigures.Program

/-- The entry of the program. -/
def main (arguments : List String) : IO UInt32 := BenchFigures.Program.run arguments
