import BenchFigures.Configuration.Dump
import BenchFigures.Decimal.Notation
import BenchFigures.OptimizationLevel

/-!
# Events

What a run reports while it works. Each event has a severity and a text. The only
part of a text that depends on the machine is the time that loading took, which
whoever prints the events supplies.
-/

namespace BenchFigures

/-- How important an event is. -/
inductive Severity where
  | debug
  | info
  | warning
  deriving DecidableEq, Repr

/-- The word for a severity in the log. -/
def Severity.name : Severity → String
  | .debug => "DEBUG"
  | .info => "INFO"
  | .warning => "WARN"

/-- Something worth reporting. -/
inductive Event where
  | configured (configuration : Configuration)
  | found (file : Path)
  | readRuns (count : Nat) (file : Path)
  | runCountsDiffer (own baseline : Nat)
  | unionSpeedup (level : OptimizationLevel) (register stack : Float)
  | loaded (benchmarks : Nat)
  | noFont
  | chartFont (file : Path)
  | saved (file : Path)
  | summarized (table : String)

namespace Event

/-- The severity of an event. -/
def severity : Event → Severity
  | .configured _ | .found _ | .readRuns _ _ | .chartFont _ => .debug
  | .runCountsDiffer _ _ | .noFont => .warning
  | .unionSpeedup _ _ _ | .loaded _ | .saved _ | .summarized _ => .info

/-- The text of an event, given the text of the time that loading took. -/
def text (loadingTime : String) : Event → String
  | .configured configuration => "config: " ++ configuration.dump
  | .found file => s!"Found {file.text}"
  | .readRuns count file => s!"Read {count} runs from {file.text}"
  | .runCountsDiffer own baseline => s!"Comparing benchmarks with {own} and {baseline} runs"
  | .unionSpeedup level register stack =>
    s!"{level.flag}: union speedup " ++ Decimal.fixedSigned 4 register ++ " (register), " ++
      Decimal.fixedSigned 4 stack ++ " (stack)"
  | .loaded benchmarks => s!"Loaded {benchmarks} benchmarks in {loadingTime}"
  | .noFont => "No font found, charts are drawn without text"
  | .chartFont file => s!"Chart font: {file.text}"
  | .saved file => s!"Saved {file.text}"
  | .summarized table => "Summary:\n" ++ table

/-- An event as the log shows it: severity, then text. -/
def line (loadingTime : String) (event : Event) : String :=
  event.severity.name ++ " " ++ event.text loadingTime

end Event

end BenchFigures
