import BenchFigures.Chart.BlankLibrary
import BenchFigures.CommandLine.Options
import BenchFigures.Configuration.File
import BenchFigures.Generate
import BenchFigures.Text.Terminal

/-!
# The command line

A run reads its options, then its configuration, and generates the figures. What
it shows on its output are the events, each on its lines, without the least
important ones unless more output is asked for, and with no command to the terminal
in their texts. A failure is shown with what
caused it, one cause to a line, the nearest first.

Here the library that draws is settled: the program is run with one that has no letters.
-/

namespace BenchFigures.CommandLine

/-- The name of the program. -/
def programName : String := "genfig"

/-- The answer to a question for the version. -/
def versionText : String := programName ++ " 0.1.0"

/-- How the program is called. -/
def usage : List String :=
  ["USAGE:",
   "    " ++ programName ++ " [FLAGS] [OPTIONS]"]

/-- The answer to a question for help. -/
def help : List String :=
  [versionText,
   "Generation of the bitmask/union decoding benchmark figures",
   ""] ++ usage ++
  ["",
   "FLAGS:",
   "    -h, --help       Prints help information",
   "    -V, --version    Prints version information",
   "    -v, --verbose    ",
   "",
   "OPTIONS:",
   "    -c, --config <config>    "]

/-- How a run ended. -/
inductive Outcome where
  /-- A question was answered. -/
  | answered (lines : List String)
  /-- The arguments were not understood. -/
  | refused (fault : UsageFault)
  /-- The figures were generated, or a failure stopped it. -/
  | worked (verbose : Bool) (events : List Event) (failure : Option Failure)

/-- The configuration that the options name, or the standard one. -/
def configurationOf (options : Options) : Action Configuration :=
  match options.configuration with
  | some path => Configuration.ofFile path
  | none => pure {}

/-- Generate the figures as the options ask. -/
def figures (options : Options) : Action Unit := do
  let configuration ← configurationOf options
  Action.report (.configured configuration)
  let _ ← generateAll configuration

/-- Generate the figures in a file tree, starting with no font and no events. -/
def work (options : Options) (tree : FileTree) (working : Location) : Outcome × FileTree :=
  let (result, workspace) := (figures options).run ⟨tree, working, none, []⟩
  let failure :=
    match result with
    | .ok () => none
    | .error failure => some failure
  (.worked options.verbose workspace.events failure, workspace.tree)

/-- A run with some arguments in a file tree, and the tree it leaves behind. -/
def run (arguments : List String) (tree : FileTree) (working : Location) : Outcome × FileTree :=
  match Options.read arguments with
  | .error fault => (.refused fault, tree)
  | .ok .help => (.answered help, tree)
  | .ok .version => (.answered [versionText], tree)
  | .ok (.figures options) => work options tree working

/-- A text below a heading: its first line after a mark, the others as far to the right. -/
def indented (mark : String) (text : String) : List String :=
  match Text.pieces '\n' text.toList with
  | [] => [mark]
  | first :: rest =>
    let margin := String.ofList (List.replicate mark.length ' ')
    (mark ++ String.ofList first) :: rest.map fun line => margin ++ String.ofList line

/-- The causes of a failure. They are numbered if there are several. -/
def causeLines (causes : List String) : List String :=
  match causes with
  | [cause] => indented "    " cause
  | _ => causes.zipIdx.flatMap fun (cause, index) => indented s!"    {index}: " cause

/-- A failure as the program shows it. -/
def failureLines (failure : Failure) : List String :=
  match failure.texts with
  | [] => []
  | [text] => ["Error: " ++ text]
  | text :: causes => ["Error: " ++ text, "", "Caused by:"] ++ causeLines causes

namespace Outcome

/-- The code that the program ends with. A range without points is a fault of the
program and not of what it was given. A program whose search for labels never ends has
no code; it is counted with those that fail. -/
def code : Outcome → Nat
  | .answered _ => 0
  | .refused _ => 1
  | .worked _ _ none => 0
  | .worked _ _ (some ⟨_, .emptyRange⟩) => 101
  | .worked _ _ (some _) => 1

/-- Whether a run shows an event. -/
def shows (verbose : Bool) (event : Event) : Bool := verbose || event.severity ≠ .debug

/-- What the program writes to its output, given the text of the time that loading took. -/
def output (loadingTime : String) : Outcome → List String
  | .answered lines => lines
  | .refused _ => []
  | .worked verbose events _ =>
    (events.filter (shows verbose)).flatMap fun event =>
      (Text.pieces '\n' (Text.forTerminal (event.line loadingTime)).toList).map String.ofList

/-- What the program writes to its error output. -/
def complaint : Outcome → List String
  | .answered _ => []
  | .refused fault =>
    ["error: " ++ fault.message, ""] ++ usage ++ ["", "For more information try --help"]
  | .worked _ _ none => []
  | .worked _ _ (some failure) => failureLines failure

end Outcome

end BenchFigures.CommandLine
