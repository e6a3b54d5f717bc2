import BenchFigures.Files.Path

/-!
# Options

The arguments of a run may name a configuration file and may ask for more output.
They are read from left to right. An unknown argument, or a question for help or
for the version, ends the reading at once; a missing value and an option given
twice are only noticed when all arguments have been read.
-/

namespace BenchFigures

/-- How a run is to be carried out. -/
structure Options where
  configuration : Option Path := none
  verbose : Bool := false
  deriving DecidableEq, Repr

/-- What arguments ask for. -/
inductive Request where
  | help
  | version
  | figures (options : Options)
  deriving DecidableEq, Repr

/-- What can be set by arguments. -/
inductive Setting where
  | configuration
  | verbose
  deriving DecidableEq, Repr

/-- Why arguments are refused. -/
inductive UsageFault where
  | unexpected (argument : String)
  /-- The configuration file is asked for but not named. -/
  | missingValue
  | repeated (setting : Setting)
  deriving DecidableEq, Repr

/-- A setting as messages show it. -/
def Setting.shown : Setting → String
  | .configuration => "--config <config>"
  | .verbose => "--verbose"

/-- The text of a reason to refuse arguments. -/
def UsageFault.message : UsageFault → String
  | unexpected argument =>
    "Found argument '" ++ argument ++ "' which wasn't expected, or isn't valid in this context"
  | missingValue =>
    "The argument '" ++ Setting.configuration.shown ++
      "' requires a value but none was supplied"
  | repeated setting =>
    "The argument '" ++ setting.shown ++
      "' was provided more than once, but cannot be used multiple times"

namespace Options

/-- What ends the reading of arguments early. -/
inductive Halt where
  | refused (fault : UsageFault)
  | asked (request : Request)
  deriving DecidableEq, Repr

/-- What has been read: how often each setting was given, the values of the
configuration setting, and how the next argument is to be taken. -/
structure Reading where
  configurations : Nat := 0
  values : List String := []
  verbosities : Nat := 0
  /-- The last argument was the configuration setting without a value. -/
  expectsValue : Bool := false
  /-- Two dashes stood alone: whatever follows is no setting. -/
  settingsEnded : Bool := false
  deriving DecidableEq, Repr

namespace Reading

/-- Take the configuration setting, with its value if it came in the same argument. -/
def configure (reading : Reading) (value : Option (List Char)) : Reading :=
  { reading with
    configurations := reading.configurations + 1
    values := reading.values ++ (value.map String.ofList).toList
    expectsValue := value.isNone }

/-- Take an argument as the value that is expected. -/
def takeValue (reading : Reading) (value : String) : Reading :=
  { reading with values := reading.values ++ [value], expectsValue := false }

/-- Take the setting for more output. -/
def enlarge (reading : Reading) : Reading :=
  { reading with verbosities := reading.verbosities + 1, expectsValue := false }

/-- Leave out the equals signs before a value. -/
def afterEquals (value : List Char) : List Char := value.dropWhile (· = '=')

/-- Read a setting by its long name. Its value may follow an equals sign; a value
of a setting that takes none is ignored. -/
def long (reading : Reading) (text : List Char) : Except Halt Reading :=
  let value := text.dropWhile (· ≠ '=')
  match String.ofList (text.takeWhile (· ≠ '=')) with
  | "config" => .ok (reading.configure (if value.isEmpty then none else some (afterEquals value)))
  | "verbose" => .ok reading.enlarge
  | "help" => .error (.asked .help)
  | "version" => .error (.asked .version)
  | name => .error (.refused (.unexpected ("--" ++ name)))

/-- Read settings by their letters. What follows the letter of the configuration
setting is its value. -/
def letters (reading : Reading) : List Char → Except Halt Reading
  | [] => .ok reading
  | letter :: rest =>
    match letter with
    | 'c' => .ok (reading.configure (if rest.isEmpty then none else some (afterEquals rest)))
    | 'v' => reading.enlarge.letters rest
    | 'h' => .error (.asked .help)
    | 'V' => .error (.asked .version)
    | _ => .error (.refused (.unexpected (String.ofList ['-', letter])))

/-- Read an argument. One dash alone is not a setting. -/
def step (reading : Reading) (argument : String) : Except Halt Reading :=
  let refusal : Except Halt Reading := .error (.refused (.unexpected argument))
  if reading.settingsEnded then refusal
  else
    match argument.toList with
    | ['-', '-'] => .ok { reading with settingsEnded := true }
    | '-' :: '-' :: text => reading.long (text.dropWhile (· = '-'))
    | '-' :: letter :: rest => reading.letters (letter :: rest)
    | _ => if reading.expectsValue then .ok (reading.takeValue argument) else refusal

/-- The options, once all arguments have been read. -/
def finish (reading : Reading) : Except UsageFault Options :=
  if 0 < reading.configurations && reading.values.isEmpty then .error .missingValue
  else if 1 < reading.configurations then .error (.repeated .configuration)
  else if 1 < reading.verbosities then .error (.repeated .verbose)
  else .ok ⟨reading.values.head?.map Path.mk, 0 < reading.verbosities⟩

end Reading

/-- What arguments ask for. -/
def read (arguments : List String) : Except UsageFault Request :=
  match arguments.foldlM Reading.step {} with
  | .ok reading => reading.finish.map .figures
  | .error (.refused fault) => .error fault
  | .error (.asked request) => .ok request

end Options

end BenchFigures
