import BenchFigures.Chart.Grid
import BenchFigures.Configuration
import BenchFigures.Decimal.Numeral
import BenchFigures.Files.Tree
import BenchFigures.Sample
import BenchFigures.Text.Quoted
import BenchFigures.Variant

/-!
# Failures

A failure is a cause and the circumstances it was met in, the outermost first.
Causes and circumstances are data; the wording stands in one function for each.
A message is the texts of the circumstances and of the cause, in this order.
-/

namespace BenchFigures

/-- Where reading of a record started: how many records, the header included,
lines and bytes came before it. -/
structure RecordPosition where
  record : Nat
  line : Nat
  byte : Nat
  deriving DecidableEq, Repr

/-- Why a result file cannot be read as a table. -/
inductive TableFault where
  | file (fault : FileFault)
  /-- A field is not text: the position of its record, which field it is and how
  many of its bytes are. -/
  | notText (position : RecordPosition) (field valid : Nat)
  deriving DecidableEq, Repr

/-- Why a picture cannot be saved. -/
inductive SavingFault where
  | file (fault : FileFault)
  /-- The extension names no picture format, or is missing. -/
  | unknownFormat (extension : Option String)
  /-- The extension names a format that cannot be written. -/
  | refusedFormat (name : String)
  /-- The picture has more rows or columns than its format allows. -/
  | oversized
  deriving DecidableEq, Repr

/-- Why a chart cannot be drawn and saved. -/
inductive DrawingFault where
  /-- A text or the legend is not drawn, in the words of the library. -/
  | lettering (account : String)
  | saving (fault : SavingFault)
  deriving DecidableEq, Repr

/-- The formats a configuration may be written in. -/
inductive DocumentFormat where
  | json
  | yaml
  deriving DecidableEq, Repr

/-- What went wrong. -/
inductive Cause where
  | settings (fault : SettingsFault)
  | sample (fault : SampleFault)
  | missingField (file : Path) (line field : Nat)
  | notInteger (fault : IntegerFault)
  | notFloat (fault : FloatFault)
  | alreadyCompared (speedup : Float)
  | notCompared (encoding : Encoding) (level : OptimizationLevel)
  | noResultFile (directory : Path)
  | severalResultFiles (directory : Path) (files : List Path)
  | nothingToPlot
  | noSpeedupToPlot
  | badGridStep (step : Float)
  | tooManyGridlines (low high step : Float)
  | invalidFont (file : Path)
  | file (fault : FileFault)
  | table (fault : TableFault)
  /-- The text is not a configuration in the format its file name calls for. -/
  | malformed (format : DocumentFormat)
  | drawing (fault : DrawingFault)
  /-- Values were to be held within a range that has no points. -/
  | emptyRange
  /-- The search for the labelled points of an axis never ends. This is not a failure that
  anyone sees: the program does not come back from it. -/
  | endlessSearch

/-- What was being done. -/
inductive Circumstance where
  | readingDirectory (directory : Path)
  | opening (file : Path)
  | reading (file : Path)
  | field (file : Path) (line field : Nat) (text : String)
  | validating (file : Path)
  | findingResults (level : OptimizationLevel)
  | loading (level : OptimizationLevel) (variant : Variant)
  | readingConfiguration (file : Path)
  | decoding (file : Path)
  | checkingElapsedChart
  | checkingSpeedupChart
  | rendering (file : Path)
  | readingFont (file : Path)
  | writing (file : Path)

/-- A cause met in some circumstances, the outermost first. -/
structure Failure where
  circumstances : List Circumstance
  cause : Cause

/-- The file extension of results. -/
def resultExtension : String := "csv"

/-- The text of a file fault, with the number the operating system gives it. -/
def FileFault.message : FileFault → String
  | notFound => "No such file or directory (os error 2)"
  | notDirectory => "Not a directory (os error 20)"
  | isDirectory => "Is a directory (os error 21)"
  | nameTooLong => "File name too long (os error 36)"
  | impossibleName => "file name contained an unexpected NUL byte"
  | notText => "stream did not contain valid UTF-8"

/-- The text of a reason not to be an integer. -/
def IntegerFault.message : IntegerFault → String
  | empty => "cannot parse integer from empty string"
  | invalidDigit => "invalid digit found in string"
  | tooLarge => "number too large to fit in target type"
  | tooSmall => "number too small to fit in target type"

/-- The text of a reason not to be a floating point number. -/
def FloatFault.message : FloatFault → String
  | empty => "cannot parse float from empty string"
  | invalid => "invalid float literal"

/-- The text of a reason not to be a sample. -/
def SampleFault.message : SampleFault → String
  | noRun => "benchmark holds no run"
  | unevenColumns indexes elapsed meanDeviations =>
    s!"columns have different lengths: {indexes} runs, {elapsed} elapsed, " ++
      s!"{meanDeviations} mean deviations"

/-- The text of a reason not to be a table. -/
def TableFault.message : TableFault → String
  | .file fault => fault.message
  | .notText position index valid =>
    s!"CSV parse error: record {position.record} (line {position.line}, field: {index}, " ++
      s!"byte: {position.byte}): invalid utf-8: invalid UTF-8 in field {index} " ++
      s!"near byte index {valid}"

/-- How the picture library shows a file fault. -/
def FileFault.detailed : FileFault → String
  | notFound => "Os \x7b code: 2, kind: NotFound, message: \"No such file or directory\" \x7d"
  | notDirectory => "Os \x7b code: 20, kind: NotADirectory, message: \"Not a directory\" \x7d"
  | isDirectory => "Os \x7b code: 21, kind: IsADirectory, message: \"Is a directory\" \x7d"
  | nameTooLong =>
    "Os \x7b code: 36, kind: InvalidFilename, message: \"File name too long\" \x7d"
  | impossibleName =>
    "Error \x7b kind: InvalidInput, message: \"file name contained an unexpected NUL byte\" \x7d"
  | notText => "Error \x7b kind: InvalidData, message: \"stream did not contain valid UTF-8\" \x7d"

/-- How the picture library shows a fault. -/
def SavingFault.detailed : SavingFault → String
  | file fault => "IoError(" ++ fault.detailed ++ ")"
  | unknownFormat none =>
    "Unsupported(UnsupportedError \x7b format: Unknown, kind: Format(Unknown) \x7d)"
  | unknownFormat (some extension) =>
    "Unsupported(UnsupportedError \x7b format: PathExtension(" ++ Text.quoted extension ++
      "), kind: Format(PathExtension(" ++ Text.quoted extension ++ ")) \x7d)"
  | refusedFormat name =>
    "Unsupported(UnsupportedError \x7b format: Unknown, kind: Format(Name(\"" ++ name ++
      "\")) \x7d)"
  | oversized => "Parameter(ParameterError \x7b kind: DimensionMismatch, underlying: None \x7d)"

/-- The text of a fault of the drawing layer. -/
def DrawingFault.message : DrawingFault → String
  | lettering account => "backend error: " ++ account
  | saving fault => "backend error: Drawing backend error: ImageError(" ++ fault.detailed ++ ")"

/-- The text of a cause. -/
def Cause.message : Cause → String
  | .settings fault => fault.message
  | .sample fault => fault.message
  | .missingField path line index => s!"{path.text}:{line}: missing field {index}"
  | .notInteger fault => fault.message
  | .notFloat fault => fault.message
  | .alreadyCompared speedup => "speedup already computed (" ++ Decimal.plain speedup ++ ")"
  | .notCompared encoding level => s!"no {encoding.name} speedup computed for {level.flag}"
  | .noResultFile directory => s!"no .{resultExtension} file in {directory.text}"
  | .severalResultFiles directory files =>
    s!"expected exactly one .{resultExtension} file in {directory.text}, found {files.length}: " ++
      ", ".intercalate (files.map Path.text)
  | .nothingToPlot => "no benchmark to plot"
  | .noSpeedupToPlot => "no speedup to plot"
  | .badGridStep step => "invalid grid step " ++ Decimal.plain step
  | .tooManyGridlines low high step =>
    "too many gridlines between " ++ Decimal.plain low ++ " and " ++ Decimal.plain high ++
      " every " ++ Decimal.plain step
  | .invalidFont path => s!"{path.text} is not a valid font"
  | .file fault => fault.message
  | .table fault => fault.message
  | .malformed .json => "not a JSON configuration"
  | .malformed .yaml => "not a YAML configuration"
  | .drawing fault => fault.message
  | .emptyRange => "values cannot be held within an empty range"
  | .endlessSearch => "the labelled points of an axis are never found"

/-- The text of a circumstance. -/
def Circumstance.message : Circumstance → String
  | .readingDirectory path => s!"could not read directory {path.text}"
  | .opening path => s!"could not open {path.text}"
  | .reading path => s!"could not read {path.text}"
  | .field path line index text =>
    s!"{path.text}:{line}: field {index} " ++ "'" ++ text ++ "' is not a number"
  | .validating path => s!"invalid {path.text}"
  | .findingResults level => s!"could not find the results of {level.flag}"
  | .loading level variant => s!"could not load {level.flag} {variant.name}"
  | .readingConfiguration path => s!"could not read config file {path.text}"
  | .decoding path => s!"could not deserialize {path.text}"
  | .checkingElapsedChart => "invalid elapsed_chart configuration"
  | .checkingSpeedupChart => "invalid speedup_chart configuration"
  | .rendering path => s!"could not render {path.text}"
  | .readingFont path => s!"could not read font {path.text}"
  | .writing path => s!"could not write {path.text}"

namespace Failure

/-- The texts of a failure, the outermost first. -/
def texts (failure : Failure) : List String :=
  failure.circumstances.map Circumstance.message ++ [failure.cause.message]

/-- The whole failure in one line. -/
def message (failure : Failure) : String := ": ".intercalate failure.texts

end Failure

/-- A failure whose circumstances are not yet known. -/
def Cause.failure (cause : Cause) : Failure := ⟨[], cause⟩

/-- A failure in a further, outer circumstance. -/
def Failure.during (circumstance : Circumstance) (failure : Failure) : Failure :=
  { failure with circumstances := circumstance :: failure.circumstances }

/-- The cause of a refused grid. -/
def GridFault.cause (fault : GridFault) (low high step : Float) : Cause :=
  match fault with
  | badStep => .badGridStep step
  | tooManyLines => .tooManyGridlines low high step

end BenchFigures
