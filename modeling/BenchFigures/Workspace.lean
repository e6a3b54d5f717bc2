import BenchFigures.Event
import BenchFigures.Failure
import BenchFigures.Text.Utf8

/-!
# Workspaces and actions

A workspace is what a run can see and change: a file tree, the working directory,
the font registered for chart labels and the events reported so far. An action
works on a workspace and gives a value or a failure. A failure does not undo what
was done before it: files written stay written and events stay reported.

A run is the only one that uses its workspace. What several runs at once may do to a
file, or to the font of a process they share, is left out.
-/

namespace BenchFigures

/-- A font that was registered: the path it was read from and its bytes. -/
structure Font where
  path : Path
  bytes : List UInt8

/-- The files, the working directory, the registered font and the events so far,
the oldest first. -/
structure Workspace where
  tree : FileTree
  working : Location
  font : Option Font
  events : List Event

/-- The bytes of the registered font. -/
def Workspace.typeface (workspace : Workspace) : Option (List UInt8) :=
  workspace.font.map Font.bytes

/-- A computation on a workspace that may fail. -/
abbrev Action := ExceptT Failure (StateM Workspace)

namespace Action

variable {α ε : Type}

/-- Run an action on a workspace. -/
def run (action : Action α) (workspace : Workspace) : Except Failure α × Workspace :=
  (ExceptT.run action) workspace

/-- Fail with a cause. -/
def fail (cause : Cause) : Action α := throw cause.failure

/-- The value of a computation without effects, or its fault as a failure. -/
def ofExcept (cause : ε → Cause) : Except ε α → Action α
  | .ok value => pure value
  | .error fault => fail (cause fault)

/-- The value of a computation without effects, or its failure. -/
def ofResult : Except Failure α → Action α
  | .ok value => pure value
  | .error failure => throw failure

/-- Perform an action in a circumstance, which a failure then names. -/
def during (circumstance : Circumstance) (action : Action α) : Action α :=
  ExceptT.adapt (Failure.during circumstance) action

/-- Report an event. -/
def report (event : Event) : Action Unit :=
  modify fun workspace => { workspace with events := workspace.events ++ [event] }

/-- Look at the file tree from the working directory. -/
def look (question : FileTree → Location → α) : Action α := do
  let workspace ← get
  return question workspace.tree workspace.working

/-- The bytes of the file at a path. -/
def readBytes (path : Path) : Action (List UInt8) := do
  let content ← ofExcept .file (← look fun tree working => tree.read working path)
  return content.toBytes

/-- The text of the file at a path. -/
def readText (path : Path) : Action (List Char) := do
  match Text.decode? (← readBytes path) with
  | some text => return text
  | none => fail (.file .notText)

/-- Create or replace the file at a path. -/
def writeFile (path : Path) (content : Content) : ExceptT FileFault (StateM Workspace) Unit := do
  let workspace ← get
  match workspace.tree.write workspace.working path content with
  | .ok tree => set { workspace with tree }
  | .error fault => throw fault

/-- A failed file operation, as a failure of an action. -/
def orFail (cause : FileFault → Cause) (operation : ExceptT FileFault (StateM Workspace) α) :
    Action α :=
  ExceptT.adapt (fun fault => (cause fault).failure) operation

end Action

end BenchFigures
