import BenchFigures.Results.Table
import BenchFigures.Workspace

/-!
# Result files

A result file is a table whose header is skipped. Each record gives one run: its
index, its elapsed time and the mean deviation; further fields may hold anything
that is text. The first thing wrong, from record to record and within a record
from field to field, is what reading fails with.
-/

namespace BenchFigures.ResultFile

/-- The text of a field, if the record has so many. -/
def field (file : Path) (line : Nat) (texts : List (List Char)) (index : Nat) :
    Except Failure (List Char) :=
  match texts[index]? with
  | some text => .ok text
  | none => .error (Cause.missingField file line index).failure

/-- Read a number in a field; what is wrong with it is reported with its place. -/
def number {α ε : Type} (file : Path) (line : Nat) (texts : List (List Char)) (index : Nat)
    (cause : ε → Cause) (read : List Char → Except ε α) : Except Failure α := do
  let text ← field file line texts index
  match read text with
  | .ok value => .ok value
  | .error fault =>
    .error ((cause fault).failure.during (.field file line index (String.ofList text)))

/-- The run that a record describes. -/
def run (file : Path) (record : Table.Record) : Except Failure (Run Float) := do
  let texts ← record.texts.mapError fun fault => (Cause.table fault).failure.during (.reading file)
  let line := record.start.line
  let index ← number file line texts 0 .notInteger Numeral.integer
  let elapsed ← number file line texts 1 .notFloat Numeral.float
  let meanDeviation ← number file line texts 2 .notFloat Numeral.float
  return { index, elapsed, meanDeviation }

/-- The runs in a file. -/
def runs (file : Path) (bytes : List UInt8) : Except Failure (List (Run Float)) :=
  ((Table.records bytes).drop 1).mapM (run file)

/-- Open a result file and take its bytes. A directory can be opened but not read. -/
def open? (file : Path) : Action (List UInt8) := do
  match ← Action.look fun tree working => tree.find working file with
  | .error fault => (Action.fail (.table (.file fault))).during (.opening file)
  | .ok .directory => (Action.fail (.table (.file .isDirectory))).during (.reading file)
  | .ok (.file content) => return content.toBytes

/-- Read a result file. A file without runs is read to its end and then refused. -/
def read (file : Path) : Action (Sample Float) := do
  let bytes ← open? file
  let found ← Action.ofResult (runs file bytes)
  Action.report (.readRuns found.length file)
  (Action.ofExcept .sample (Sample.ofRuns found)).during (.validating file)

end BenchFigures.ResultFile
