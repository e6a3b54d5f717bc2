import BenchFigures.Configuration.Check
import BenchFigures.Json.Dialect
import BenchFigures.Workspace
import BenchFigures.Yaml.Dialect

/-!
# Configuration files

The extension of a file says how it is written: as JSON if it is exactly `json`,
and as YAML otherwise. A configuration that was read passes its check.
-/

namespace BenchFigures.Configuration

/-- The format a file name calls for. -/
def formatOf (path : Path) : DocumentFormat :=
  if path.extension? = some "json" then .json else .yaml

/-- The configuration that a text holds in a format. -/
def ofText? (format : DocumentFormat) (text : List Char) : Option Configuration :=
  match format with
  | .json => Json.configuration? text
  | .yaml => Yaml.configuration? text

/-- Read a configuration file. -/
def ofFile (path : Path) : Action Configuration := do
  let text ← (Action.readText path).during (.readingConfiguration path)
  let format := formatOf path
  match ofText? format text with
  | none => (Action.fail (.malformed format)).during (.decoding path)
  | some configuration =>
    Action.ofResult configuration.check
    return configuration

end BenchFigures.Configuration
