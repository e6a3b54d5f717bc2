import BenchFigures.Configuration.File
import BenchFigures.Proofs.JsonDocuments
import BenchFigures.Proofs.JsonNumbers
import BenchFigures.Proofs.JsonRecords
import BenchFigures.Proofs.Saving
import BenchFigures.Proofs.TextBytes

/-!
# Configuration files

A document in JSON shows a configuration if it is an object that settles every field: a field
that is given has the value that is shown, and every other field has its default. The output
files and the settings of both charts are objects of their own, for which the same holds. A number
in binary64 is shown as it is given in JSON, rounded once if it is short and twice in general.

Such a file gives the configuration that it shows, if this passes its check. What a file gives
depends neither on the order of the members of these objects nor on members with other names,
and a file in which one of these objects gives a field twice is refused.
-/

namespace BenchFigures

namespace Json

/-! ### What values show -/

/-- A value shows a string: it is a text that denotes it. -/
def ShowsString (value : Json) (string : String) : Prop := value = .string (Text.ofString string)

/-- A value shows a path: it shows the text of the path. -/
def ShowsPath (value : Json) (path : Path) : Prop := ShowsString value path.text

/-- A value shows a path or that there is none. -/
def ShowsOptionalPath (value : Json) : Option Path → Prop
  | none => value = .null
  | some path => ShowsPath value path

/-- A value shows a size: it is a number of digits alone, and the size has at most 32 bits. -/
def ShowsSize (value : Json) (size : Nat) : Prop :=
  ∃ digits, value = .number ⟨false, digits, none, none⟩ ∧ Numeral.valueOf digits 0 = size ∧
    size < Nat.pow 2 32

/-- A value shows a binary64 number: it gives its size, and both have the same sign. -/
def ShowsFloat (value : Json) (number : Float) : Prop :=
  ∃ written size, value = .number written ∧ written.Gives size ∧
    Binary64.value? number = some (if written.negative then -size else size) ∧
    Binary64.isNegative number = written.negative

/-- A value shows a level: its name, or an object with the name as its only key and nothing in
it. -/
inductive ShowsLevel (value : Json) (level : OptimizationLevel) : Prop
  | named (named : ShowsString value level.name)
  | keyed (keyed : value = ofMembers [(level.name, .null)])

/-- A value shows levels: it is an array of values that show them in order. -/
def ShowsLevels (value : Json) (levels : List OptimizationLevel) : Prop :=
  ∃ items, value = .array items ∧ List.Forall₂ ShowsLevel items levels

/-- A shown string is read. -/
theorem string?_of_shows (value : Json) (string : String) (shown : ShowsString value string) :
    string? value = some string := by
  rw [shown, string?, Text.characters?_ofString, Option.map_some, String.ofList_toList]

/-- A shown path is read. -/
theorem path?_of_shows (value : Json) (path : Path) (shown : ShowsPath value path) :
    dialect.path? value = some path := by
  rw [Dialect.path?]
  change (string? value).map Path.mk = _
  rw [string?_of_shows value path.text shown]
  rfl

/-- A shown path is read, and so is that there is none. -/
theorem optionalPath?_of_shows (value : Json) (path : Option Path)
    (shown : ShowsOptionalPath value path) : dialect.optionalPath? value = some path := by
  cases path with
  | none =>
    obtain rfl : value = .null := shown
    rfl
  | some path =>
    have read : string? value = some path.text := string?_of_shows value path.text shown
    have present : optionalString? value = some (some path.text) := by
      rw [optionalString?, read]
      · rfl
      · rintro rfl
        simp [string?] at read
    rw [Dialect.optionalPath?]
    change (optionalString? value).map _ = _
    rw [present]
    rfl

/-- A shown size is read. -/
theorem size?_of_shows (value : Json) (size : Nat) (shown : ShowsSize value size) :
    size? value = some size := by
  obtain ⟨digits, rfl, rfl, small⟩ := shown
  simp [size?, Number.size?, Number.isWhole, small]

/-- What numbers show is what they are read as. -/
theorem showsFloat_iff (written : Number) (number : Float) :
    ShowsFloat (.number written) number ↔ written.float? = some number := by
  have signs (size : Rat) : Binary64.Carries number written.sign size ↔
      Binary64.value? number = some (if written.negative then -size else size) ∧
        Binary64.isNegative number = written.negative := by
    rw [Binary64.carries_iff, Number.sign]
    cases written.negative <;> simp [Binary64.signed]
  simp [ShowsFloat, Number.float?_eq_some_iff, signs]

/-- A shown number is read. -/
theorem float?_of_shows (value : Json) (number : Float) (shown : ShowsFloat value number) :
    float? value = some number := by
  obtain ⟨written, size, rfl, gives⟩ := shown
  exact (showsFloat_iff written number).1 ⟨written, size, rfl, gives⟩

/-- A shown level is read. -/
theorem level?_of_shows (value : Json) (level : OptimizationLevel)
    (shown : ShowsLevel value level) : level? value = some level := by
  cases shown with
  | named named =>
    have read := string?_of_shows value level.name named
    rw [ShowsString] at named
    subst named
    rw [level?, read]
    · exact OptimizationLevel.ofName?_name level
    · simp
  | keyed keyed =>
    subst keyed
    rw [ofMembers, List.map_singleton, level?, Text.characters?_ofString]
    simp [OptimizationLevel.ofName?_name]

/-- Shown levels are read. -/
theorem levels?_of_shows (value : Json) (levels : List OptimizationLevel)
    (shown : ShowsLevels value levels) : dialect.levels? value = some levels := by
  obtain ⟨items, rfl, each⟩ := shown
  exact (mapM_eq_some_iff _ _ _).2 (each.imp level?_of_shows)

/-! ### Records -/

/-- A value shows a record: it is an object in which no known name is given twice, and its members
settle the fields. -/
def ShowsRecord {α : Type} (names : List String) (settle : List (String × Json) → α → Prop)
    (value : Json) (result : α) : Prop :=
  ∃ members, value = ofMembers members ∧ AtMostOnce names members ∧ settle members result

/-- Members settle the output files. -/
structure SettleOutput (members : List (String × Json)) (files : OutputFiles) : Prop where
  registerElapsed : Settles members "register_elapsed" ShowsPath
    ({} : OutputFiles).registerElapsed files.registerElapsed
  stackElapsed : Settles members "stack_elapsed" ShowsPath
    ({} : OutputFiles).stackElapsed files.stackElapsed
  unionSpeedup : Settles members "union_speedup" ShowsPath
    ({} : OutputFiles).unionSpeedup files.unionSpeedup
  summary : Settles members "summary_csv" ShowsOptionalPath
    ({} : OutputFiles).summary files.summary

/-- Members settle the layout of elapsed times. -/
structure SettleElapsed (members : List (String × Json)) (settings : ElapsedSettings) : Prop where
  width : Settles members "width" ShowsSize ({} : ElapsedSettings).width settings.width
  height : Settles members "height" ShowsSize ({} : ElapsedSettings).height settings.height
  margin : Settles members "margin" ShowsFloat ({} : ElapsedSettings).margin settings.margin
  majorStep : Settles members "major_step" ShowsFloat
    ({} : ElapsedSettings).majorStep settings.majorStep
  minorStep : Settles members "minor_step" ShowsFloat
    ({} : ElapsedSettings).minorStep settings.minorStep

/-- Members settle the layout of speedups. -/
structure SettleSpeedup (members : List (String × Json)) (settings : SpeedupSettings) : Prop where
  width : Settles members "width" ShowsSize ({} : SpeedupSettings).width settings.width
  height : Settles members "height" ShowsSize ({} : SpeedupSettings).height settings.height
  low : Settles members "y_min" ShowsFloat ({} : SpeedupSettings).low settings.low
  high : Settles members "y_max" ShowsFloat ({} : SpeedupSettings).high settings.high
  majorStep : Settles members "major_step" ShowsFloat
    ({} : SpeedupSettings).majorStep settings.majorStep
  minorStep : Settles members "minor_step" ShowsFloat
    ({} : SpeedupSettings).minorStep settings.minorStep

/-- Members settle a configuration. -/
structure SettleConfiguration (members : List (String × Json)) (configuration : Configuration) :
    Prop where
  dataDirectory : Settles members "data_dir" ShowsPath
    ({} : Configuration).dataDirectory configuration.dataDirectory
  toolchain : Settles members "toolchain" ShowsString
    ({} : Configuration).toolchain configuration.toolchain
  levels : Settles members "levels" ShowsLevels ({} : Configuration).levels configuration.levels
  font : Settles members "font" ShowsOptionalPath ({} : Configuration).font configuration.font
  output : Settles members "output" (ShowsRecord Dialect.outputNames SettleOutput)
    ({} : Configuration).output configuration.output
  elapsedChart : Settles members "elapsed_chart" (ShowsRecord Dialect.elapsedNames SettleElapsed)
    ({} : Configuration).elapsedChart configuration.elapsedChart
  speedupChart : Settles members "speedup_chart" (ShowsRecord Dialect.speedupNames SettleSpeedup)
    ({} : Configuration).speedupChart configuration.speedupChart

/-- A value shows a configuration. -/
def ShowsConfiguration (value : Json) (configuration : Configuration) : Prop :=
  ShowsRecord Dialect.configurationNames SettleConfiguration value configuration

/-- Shown output files are read. -/
theorem outputFiles?_of_shows (value : Json) (files : OutputFiles)
    (shown : ShowsRecord Dialect.outputNames SettleOutput value files) :
    dialect.outputFiles? value = some files := by
  obtain ⟨members, rfl, single, settled⟩ := shown
  rw [Dialect.outputFiles?, record?_ofMembers, if_pos ((nodup_known_iff _ _).2 single)]
  simp only [Option.bind_eq_bind, Option.bind_some,
    settled.registerElapsed.field_known single (by decide) path?_of_shows,
    settled.stackElapsed.field_known single (by decide) path?_of_shows,
    settled.unionSpeedup.field_known single (by decide) path?_of_shows,
    settled.summary.field_known single (by decide) optionalPath?_of_shows]
  rfl

/-- A shown layout of elapsed times is read. -/
theorem elapsedSettings?_of_shows (value : Json) (settings : ElapsedSettings)
    (shown : ShowsRecord Dialect.elapsedNames SettleElapsed value settings) :
    dialect.elapsedSettings? value = some settings := by
  obtain ⟨members, rfl, single, settled⟩ := shown
  rw [Dialect.elapsedSettings?, record?_ofMembers, if_pos ((nodup_known_iff _ _).2 single)]
  simp only [Option.bind_eq_bind, Option.bind_some, dialect,
    settled.width.field_known single (by decide) size?_of_shows,
    settled.height.field_known single (by decide) size?_of_shows,
    settled.margin.field_known single (by decide) float?_of_shows,
    settled.majorStep.field_known single (by decide) float?_of_shows,
    settled.minorStep.field_known single (by decide) float?_of_shows]
  rfl

/-- A shown layout of speedups is read. -/
theorem speedupSettings?_of_shows (value : Json) (settings : SpeedupSettings)
    (shown : ShowsRecord Dialect.speedupNames SettleSpeedup value settings) :
    dialect.speedupSettings? value = some settings := by
  obtain ⟨members, rfl, single, settled⟩ := shown
  rw [Dialect.speedupSettings?, record?_ofMembers, if_pos ((nodup_known_iff _ _).2 single)]
  simp only [Option.bind_eq_bind, Option.bind_some, dialect,
    settled.width.field_known single (by decide) size?_of_shows,
    settled.height.field_known single (by decide) size?_of_shows,
    settled.low.field_known single (by decide) float?_of_shows,
    settled.high.field_known single (by decide) float?_of_shows,
    settled.majorStep.field_known single (by decide) float?_of_shows,
    settled.minorStep.field_known single (by decide) float?_of_shows]
  rfl

/-- A shown configuration is read. -/
theorem configuration?_of_shows (value : Json) (configuration : Configuration)
    (shown : ShowsConfiguration value configuration) :
    dialect.configuration? value = some configuration := by
  obtain ⟨members, rfl, single, settled⟩ := shown
  have toolchain := settled.toolchain.field_known single (by decide) string?_of_shows
  rw [Dialect.configuration?, record?_ofMembers, if_pos ((nodup_known_iff _ _).2 single)]
  simp only [Option.bind_eq_bind, Option.bind_some,
    settled.dataDirectory.field_known single (by decide) path?_of_shows,
    show dialect.string? = string? from rfl, toolchain,
    settled.levels.field_known single (by decide) levels?_of_shows,
    settled.font.field_known single (by decide) optionalPath?_of_shows,
    settled.output.field_known single (by decide) outputFiles?_of_shows,
    settled.elapsedChart.field_known single (by decide) elapsedSettings?_of_shows,
    settled.speedupChart.field_known single (by decide) speedupSettings?_of_shows]
  rfl

/-! ### Nested records -/

/-- The fields that are records, each with the names of its fields. -/
def nestedRecords : List (String × List String) :=
  [("output", Dialect.outputNames), ("elapsed_chart", Dialect.elapsedNames),
    ("speedup_chart", Dialect.speedupNames)]

/-- Two values of a field are the same or, where the field is a record, give the same record. -/
def SameField (name : String) (first second : Json) : Prop :=
  first = second ∨ ∃ names, (name, names) ∈ nestedRecords ∧
    SameRecord names (fun _ => Eq) first second

/-- Two values give the same configuration, as far as their known members tell. -/
def SameConfiguration (first second : Json) : Prop :=
  SameRecord Dialect.configurationNames SameField first second

/-- The same record of output files is read the same. -/
theorem outputFiles?_alike {first second : Json}
    (alike : SameRecord Dialect.outputNames (fun _ => Eq) first second) :
    dialect.outputFiles? first = dialect.outputFiles? second := by
  rw [Dialect.outputFiles?, Dialect.outputFiles?]
  refine alike.bind fun members others agree => ?_
  simp only [field_congr agree]

/-- The same layout of elapsed times is read the same. -/
theorem elapsedSettings?_alike {first second : Json}
    (alike : SameRecord Dialect.elapsedNames (fun _ => Eq) first second) :
    dialect.elapsedSettings? first = dialect.elapsedSettings? second := by
  rw [Dialect.elapsedSettings?, Dialect.elapsedSettings?]
  refine alike.bind fun members others agree => ?_
  simp only [field_congr agree]

/-- The same layout of speedups is read the same. -/
theorem speedupSettings?_alike {first second : Json}
    (alike : SameRecord Dialect.speedupNames (fun _ => Eq) first second) :
    dialect.speedupSettings? first = dialect.speedupSettings? second := by
  rw [Dialect.speedupSettings?, Dialect.speedupSettings?]
  refine alike.bind fun members others agree => ?_
  simp only [field_congr agree]

/-- A field that is no record is read the same from the same value. -/
theorem SameField.read_eq {α : Type} {name : String} {first second : Json}
    (alike : SameField name first second) (plain : name ∉ nestedRecords.map Prod.fst)
    (read : Json → Option α) : read first = read second := by
  rcases alike with rfl | ⟨names, nested, -⟩
  · rfl
  · exact absurd (List.mem_map_of_mem nested) plain

/-- A field that is a record is read the same if the record is. -/
theorem SameField.read_nested {α : Type} {name : String} {names : List String}
    {first second : Json} (alike : SameField name first second)
    (nested : (name, names) ∈ nestedRecords) {read : Json → Option α}
    (reads : ∀ {one other}, SameRecord names (fun _ => Eq) one other → read one = read other) :
    read first = read second := by
  rcases alike with rfl | ⟨others, nestedToo, same⟩
  · rfl
  · have single : (nestedRecords.map Prod.fst).Nodup := by decide
    rw [← lookup_eq_some_iff_mem single] at nested nestedToo
    obtain rfl := Option.some.inj (nested.symm.trans nestedToo)
    exact reads same

/-- The same configuration is read the same. -/
theorem configuration?_alike {first second : Json} (alike : SameConfiguration first second) :
    dialect.configuration? first = dialect.configuration? second := by
  rw [Dialect.configuration?, Dialect.configuration?]
  refine SameRecord.bind alike fun members others agree => ?_
  have plain {α : Type} (name : String) (single : name ∉ nestedRecords.map Prod.fst)
      (standard : α) (read : Json → Option α) :
      Dialect.field members name standard read = Dialect.field others name standard read :=
    field_alike (agree name) fun _ _ same => same.read_eq single read
  have nested {α : Type} (name : String) (names : List String)
      (record : (name, names) ∈ nestedRecords) (standard : α) {read : Json → Option α}
      (reads : ∀ {one other}, SameRecord names (fun _ => Eq) one other → read one = read other) :
      Dialect.field members name standard read = Dialect.field others name standard read :=
    field_alike (agree name) fun _ _ same => same.read_nested record reads
  simp only [plain "data_dir" (by decide), plain "toolchain" (by decide),
    plain "levels" (by decide), plain "font" (by decide),
    nested "output" _ (by simp [nestedRecords]) _ outputFiles?_alike,
    nested "elapsed_chart" _ (by simp [nestedRecords]) _ elapsedSettings?_alike,
    nested "speedup_chart" _ (by simp [nestedRecords]) _ speedupSettings?_alike]

/-! ### Repeated fields -/

/-- A configuration, or a record in it, gives a field twice. -/
def RepeatsField (value : Json) : Prop :=
  Repeats Dialect.configurationNames value ∨
    ∃ members name names inner, value = .object members ∧ (name, names) ∈ nestedRecords ∧
      (Text.ofString name, inner) ∈ members ∧ Repeats names inner

/-- A configuration is not read if one of its records is not. -/
theorem configuration?_of_nested {name : String} {names : List String} {inner : Json}
    {members : List (Text × Json)} (nested : (name, names) ∈ nestedRecords)
    (given : (Text.ofString name, inner) ∈ members) (refused : dialect.record? names inner = none) :
    dialect.configuration? (.object members) = none := by
  have listed : name ∈ Dialect.configurationNames := by
    have all : ∀ field ∈ nestedRecords, field.1 ∈ Dialect.configurationNames := by decide
    exact all _ nested
  rw [Dialect.configuration?]
  cases recorded : dialect.record? Dialect.configurationNames (.object members) with
  | none => rfl
  | some found =>
    have stuck {α : Type} (standard : α) {read : Json → Option α} (unread : read inner = none) :
        Dialect.field found name standard read = none := by
      rw [Dialect.field, lookup_of_record? recorded listed given]
      exact unread
    simp only [nestedRecords, List.mem_cons, Prod.mk.injEq, List.not_mem_nil, or_false] at nested
    rcases nested with ⟨rfl, rfl⟩ | ⟨rfl, rfl⟩ | ⟨rfl, rfl⟩
    · have unread : dialect.outputFiles? inner = none := by
        rw [Dialect.outputFiles?, refused]
        rfl
      simp [stuck _ unread]
    · have unread : dialect.elapsedSettings? inner = none := by
        rw [Dialect.elapsedSettings?, refused]
        rfl
      simp [stuck _ unread]
    · have unread : dialect.speedupSettings? inner = none := by
        rw [Dialect.speedupSettings?, refused]
        rfl
      simp [stuck _ unread]

/-- A configuration is not read if it gives a field twice. -/
theorem configuration?_of_repeats {value : Json} (repeated : RepeatsField value) :
    dialect.configuration? value = none := by
  rcases repeated with top | ⟨members, name, names, inner, rfl, nested, given, twice⟩
  · rw [Dialect.configuration?, top.record?]
    rfl
  · exact configuration?_of_nested nested given twice.record?

end Json

/-- The text that a file holds is read. -/
theorem Action.result_readText {path : Path} {workspace : Workspace} {text : List Char}
    (holds : workspace.fileBytes? path = some (Text.encode text)) :
    (Action.readText path).result workspace = .ok text := by
  have decoded : Text.decode? (Text.encode text) = some text := by
    rw [Text.decode?, Text.decodeValid_encode]
    exact if_pos rfl
  have bytes : (Action.readBytes path).run workspace = (.ok (Text.encode text), workspace) := by
    rw [Workspace.fileBytes?] at holds
    rw [Action.readBytes, Action.run_bind, Action.run_look]
    cases read : workspace.tree.read workspace.working path with
    | error fault => simp [read] at holds
    | ok content =>
      rw [read] at holds
      rw [← Option.some.inj holds]
      rfl
  rw [Action.readText, Action.result, Action.run_bind, bytes]
  simp only [decoded]
  rfl

namespace Configuration

/-- The checked configuration that the text of a file holds. -/
def decoded (path : Path) (text : List Char) : Except Failure Configuration :=
  match ofText? (formatOf path) text with
  | none => .error ⟨[.decoding path], .malformed (formatOf path)⟩
  | some configuration => configuration.check.map fun _ => configuration

/-- A file gives the checked configuration of its text, if the text can be read. -/
theorem result_ofFile (path : Path) (workspace : Workspace) :
    (ofFile path).result workspace =
      (((Action.readText path).result workspace).mapError
        (Failure.during (.readingConfiguration path))).bind (decoded path) := by
  rw [ofFile, Action.result, Action.run_bind, Action.run_during]
  cases (Action.readText path).result workspace with
  | error failure => rfl
  | ok text =>
    simp only [Except.mapError, Except.bind, decoded]
    cases ofText? (formatOf path) text with
    | none => rfl
    | some configuration =>
      simp only [Action.run_bind, Action.run_ofResult]
      cases configuration.check <;> rfl

/-- A file in JSON gives the configuration of its document, once this passes its check. -/
theorem result_ofFile_json {path : Path} {workspace : Workspace} {document : Json.Document}
    (named : path.extension? = some "json")
    (holds : workspace.fileBytes? path = some (Text.encode document.text)) :
    (ofFile path).result workspace =
      match Json.dialect.configuration? document.value with
      | none => .error ⟨[.decoding path], .malformed .json⟩
      | some configuration => configuration.check.map fun _ => configuration := by
  have format : formatOf path = .json := if_pos named
  have held : ofText? .json document.text = Json.dialect.configuration? document.value := by
    rw [ofText?, Json.configuration?, document.parse?_text]
    rfl
  rw [result_ofFile, Action.result_readText holds]
  change decoded path document.text = _
  rw [decoded, format, held]

/-- A configuration that a file gives passes its check. -/
theorem check_of_ofFile {path : Path} {workspace : Workspace} {configuration : Configuration}
    (given : (ofFile path).result workspace = .ok configuration) :
    configuration.check = .ok () := by
  rw [result_ofFile, bind_eq_ok_iff] at given
  obtain ⟨text, -, given⟩ := given
  rw [decoded] at given
  split at given
  · cases given
  · next found held =>
    obtain ⟨_, checked, rfl⟩ := (map_eq_ok_iff _ _ _).1 given
    exact checked

/-- A file in JSON overrides the defaults field by field. Whatever the blanks between its tokens
and the way its texts are written, a document that shows a configuration gives it if it passes its
check, and fails as the check does otherwise. For a field in binary64 what is shown is the number
nearest to what is written, if that is short, and else the number that rounding the digits, the
power of ten and the result leads to. The order of members and the members with other names do not
change the result, be it a configuration or a failure. A document in which a record gives a field
twice is refused. And a configuration that is read from any file passes its check.

The texts in a document, keys and values, are those of the characters that are spelled there, as
they are or by escapes. -/
theorem ofFile_overrides (path : Path) (workspace : Workspace) :
    (path.extension? = some "json" → ∀ document : Json.Document,
      workspace.fileBytes? path = some (Text.encode document.text) →
        (∀ configuration, Json.ShowsConfiguration document.value configuration →
          (ofFile path).result workspace = configuration.check.map fun _ => configuration) ∧
        (∀ (other : Json.Document) (otherWorkspace : Workspace),
          otherWorkspace.fileBytes? path = some (Text.encode other.text) →
            Json.SameConfiguration document.value other.value →
              (ofFile path).result otherWorkspace = (ofFile path).result workspace) ∧
        (Json.RepeatsField document.value →
          (ofFile path).result workspace = .error ⟨[.decoding path], .malformed .json⟩)) ∧
      (∀ configuration, (ofFile path).result workspace = .ok configuration →
        configuration.check = .ok ()) ∧
      ∀ characters spellings, List.Forall₂ Json.Spells characters spellings →
        (Json.WrittenText.mk spellings.flatten).value =
          Json.Text.ofString (String.ofList characters) := by
  refine ⟨fun named document holds => ⟨?_, ?_, ?_⟩, fun configuration => check_of_ofFile, ?_⟩
  · intro configuration shown
    rw [result_ofFile_json named holds, Json.configuration?_of_shows _ _ shown]
  · intro other otherWorkspace otherHolds alike
    rw [result_ofFile_json named holds, result_ofFile_json named otherHolds,
      Json.configuration?_alike alike]
  · intro repeated
    rw [result_ofFile_json named holds, Json.configuration?_of_repeats repeated]
  · intro characters spellings spelled
    rw [Json.WrittenText.value_of_spelled spelled, Json.Text.ofString, String.toList_ofList]

end Configuration

namespace Json

/-- A member without blanks, in front of other members if there are any. -/
def WrittenMembers.tight (key : WrittenText) (value : Written) :
    Option WrittenMembers → WrittenMembers
  | none => .last .none key .none .none value .none
  | some others => .more .none key .none .none value .none others

/-- The object `{"summary_csv":"s.csv"}`. -/
def Written.onlySummary : Written :=
  .object (.tight (.plain "summary_csv".toList (by simp))
    (.string (.plain "s.csv".toList (by simp))) none)

/-- The number `640`. -/
def WrittenNumber.width : WrittenNumber where
  negative := false
  whole := ⟨['6', '4', '0'], by simp, by simp [Numeral.isDigit, Numeral.digit?]⟩
  leading := by decide
  fraction := none
  exponent := none

/-- The number `12.5`. -/
def WrittenNumber.margin : WrittenNumber where
  negative := false
  whole := ⟨['1', '2'], by simp, by simp [Numeral.isDigit, Numeral.digit?]⟩
  leading := by decide
  fraction := some ⟨['5'], by simp, by simp [Numeral.isDigit, Numeral.digit?]⟩
  exponent := none

/-- The object `{"width":640,"margin":12.5}`. -/
def Written.wide : Written :=
  .object (.tight (.plain "width".toList (by simp)) (.number .width)
    (some (.tight (.plain "margin".toList (by simp)) (.number .margin) none)))

/-- The array `["O3",{"O0":null}]`. -/
def Written.twoLevels : Written :=
  .array (.more .none (.string (.plain "O3".toList (by simp))) .none
    (.last .none (.object (.tight (.plain "O0".toList (by simp)) .null none)) .none))

/-- A document with an escape in the key of the toolchain and with members that no configuration
knows, one of them twice. -/
def Document.escaped : Document where
  before := ⟨['\n'], by simp [isBlank]⟩
  written := .object
    (.tight (.plain "x".toList (by simp)) .null
      (some (.more .none ⟨.plain 't' (by simp) :: .digits '0' '0' '6' 'F' 0x6F rfl ::
          (WrittenText.plain "olchain".toList (by simp)).glyphs⟩ ⟨['\t'], by simp [isBlank]⟩
          ⟨[' '], by simp [isBlank]⟩ (.string (.plain "gcc".toList (by simp))) .none
        (.tight (.plain "output".toList (by simp)) .onlySummary
          (some (.tight (.plain "levels".toList (by simp)) .twoLevels
            (some (.tight (.plain "elapsed_chart".toList (by simp)) .wide
              (some (.tight (.plain "x".toList (by simp)) (.emptyObject .none) none))))))))))
  after := .none

/-- The members of this document. -/
def escapedMembers : List (String × Json) :=
  [("x", .null), ("toolchain", .string (Text.ofString "gcc")),
    ("output", Written.onlySummary.value), ("levels", Written.twoLevels.value),
    ("elapsed_chart", Written.wide.value), ("x", .object [])]

/-- A document with the same known members in another order. -/
def Document.reordered : Document where
  before := .none
  written := .object
    (.tight (.plain "levels".toList (by simp)) .twoLevels
      (some (.tight (.plain "toolchain".toList (by simp)) (.string (.plain "gcc".toList (by simp)))
        (some (.tight (.plain "output".toList (by simp)) .onlySummary
          (some (.tight (.plain "elapsed_chart".toList (by simp)) .wide none)))))))
  after := .none

/-- The members of this document. -/
def reorderedMembers : List (String × Json) :=
  [("levels", Written.twoLevels.value), ("toolchain", .string (Text.ofString "gcc")),
    ("output", Written.onlySummary.value), ("elapsed_chart", Written.wide.value)]

/-- A document whose output files name the summary twice. -/
def Document.twice : Document where
  before := .none
  written := .object (.tight (.plain "output".toList (by simp))
    (.object (.tight (.plain "summary_csv".toList (by simp)) .null
      (some (.tight (.plain "summary_csv".toList (by simp)) .null none)))) none)
  after := .none

end Json

namespace Configuration

/-- A workspace with a document in a single file. -/
def holding (document : Json.Document) : Workspace where
  tree := FileTree.empty.put ["c.json"] (.file (.plain (Text.encode document.text)))
  working := []
  font := none
  events := []

/-- The configuration that the first two documents show. -/
def overridden : Configuration :=
  { toolchain := "gcc", levels := [.O3, .O0], output := { summary := some ⟨"s.csv"⟩ }
    elapsedChart := { width := 640, margin := 12.5 } }

/-- Two documents give the configuration that both show, and the third one is refused. -/
theorem ofFile_overrides_thrice :
    (ofFile ⟨"c.json"⟩).result (holding .escaped) = .ok overridden ∧
      (ofFile ⟨"c.json"⟩).result (holding .reordered) = .ok overridden ∧
      (ofFile ⟨"c.json"⟩).result (holding .twice) =
        .error ⟨[.decoding ⟨"c.json"⟩], .malformed .json⟩ ∧
      overridden.check = .ok () := by
  have named : (Path.mk "c.json").extension? = some "json" := by decide +kernel
  have holds (document : Json.Document) :
      (holding document).fileBytes? ⟨"c.json"⟩ = some (Text.encode document.text) := rfl
  have toolchain : Json.ShowsString (.string (Json.Text.ofString "gcc")) overridden.toolchain := rfl
  have levels : Json.ShowsLevels Json.Written.twoLevels.value [.O3, .O0] :=
    ⟨_, rfl, .cons (.named rfl) (.cons (.keyed rfl) .nil)⟩
  have output : Json.ShowsRecord Dialect.outputNames Json.SettleOutput
      Json.Written.onlySummary.value { summary := some ⟨"s.csv"⟩ } := by
    refine ⟨[("summary_csv", .string (Json.Text.ofString "s.csv"))], rfl, by decide, ?_⟩
    exact ⟨.absent (by simp), .absent (by simp), .absent (by simp), .given (by simp) rfl⟩
  have width : Json.ShowsSize (.number Json.WrittenNumber.width.number) 640 :=
    ⟨_, rfl, by decide, by decide⟩
  have margin : Json.ShowsFloat (.number Json.WrittenNumber.margin.number) 12.5 :=
    ⟨_, _, rfl, .nearest ⟨by decide, by decide, by decide +kernel⟩ rfl, by decide +kernel,
      by decide +kernel⟩
  have elapsed : Json.ShowsRecord Dialect.elapsedNames Json.SettleElapsed
      Json.Written.wide.value { width := 640, margin := 12.5 } := by
    refine ⟨[("width", .number Json.WrittenNumber.width.number),
      ("margin", .number Json.WrittenNumber.margin.number)], rfl, by decide, ?_⟩
    exact ⟨.given (by simp) width, .absent (by simp), .given (by simp) margin, .absent (by simp),
      .absent (by simp)⟩
  have shown : Json.ShowsConfiguration Json.Document.escaped.value overridden := by
    refine ⟨Json.escapedMembers, rfl, by decide, ?_⟩
    refine ⟨.absent ?_, .given ?_ toolchain, .given ?_ levels, .absent ?_, .given ?_ output,
      .given ?_ elapsed, .absent ?_⟩ <;> simp [Json.escapedMembers]
  have alike : Json.SameConfiguration Json.Document.escaped.value
      Json.Document.reordered.value := by
    refine ⟨Json.escapedMembers, _, Json.reorderedMembers, rfl, rfl,
      List.forall₂_same.2 fun _ _ => ⟨rfl, .inl rfl⟩, ?_⟩
    exact List.perm_append_comm_assoc [_, _] [_] [_]
  have repeated : Json.RepeatsField Json.Document.twice.value :=
    .inr ⟨_, "output", Dialect.outputNames, _, rfl, by simp [Json.nestedRecords],
      List.mem_singleton.2 rfl, _, rfl, "summary_csv", by decide, by decide +kernel⟩
  obtain ⟨⟨⟩, checked⟩ : ∃ done, overridden.check = .ok done := exists_of_isOk (by decide +kernel)
  obtain ⟨given, same, -⟩ := (ofFile_overrides ⟨"c.json"⟩ (holding .escaped)).1 named _ (holds _)
  obtain ⟨-, -, refused⟩ := (ofFile_overrides ⟨"c.json"⟩ (holding .twice)).1 named _ (holds _)
  have first := given overridden shown
  rw [checked] at first
  exact ⟨first, (same _ _ (holds .reordered) alike).trans first, refused repeated, checked⟩

end Configuration

namespace Json

/-- The number `60.000000000000004`. -/
def WrittenNumber.long : WrittenNumber where
  negative := false
  whole := ⟨['6', '0'], by simp, by simp [Numeral.isDigit, Numeral.digit?]⟩
  leading := by decide
  fraction := some ⟨List.replicate 14 '0' ++ ['4'], by simp, by
    simp [Numeral.isDigit, Numeral.digit?]⟩
  exponent := none

/-- A document with this number as the margin. -/
def Document.longMargin : Document where
  before := .none
  written := .object (.tight (.plain "elapsed_chart".toList (by simp))
    (.object (.tight (.plain "margin".toList (by simp)) (.number .long) none)) none)
  after := .none

end Json

namespace Configuration

/-- A margin is not always the number nearest to what is written: the digits of this one need more
than 53 bits, and rounding them first loses the last digit. -/
theorem not_margin_always_nearest :
    ¬ ∀ (path : Path) (workspace : Workspace) (document : Json.Document)
        (members settings : List (String × Json)) (written : Json.Number)
        (configuration : Configuration),
      path.extension? = some "json" →
        workspace.fileBytes? path = some (Text.encode document.text) →
        document.value = Json.ofMembers members →
        ("elapsed_chart", Json.ofMembers settings) ∈ members →
        ("margin", .number written) ∈ settings →
        (ofFile path).result workspace = .ok configuration →
          Binary64.IsNearest configuration.elapsedChart.margin
            (if written.negative then -written.decimal.value else written.decimal.value) := by
  intro nearest
  have named : (Path.mk "c.json").extension? = some "json" := by decide +kernel
  have holds : (holding .longMargin).fileBytes? ⟨"c.json"⟩ =
      some (Text.encode Json.Document.longMargin.text) := rfl
  have read : Json.WrittenNumber.long.number.float? = some 60.0 := by decide +kernel
  have settings : Json.ShowsRecord Dialect.elapsedNames Json.SettleElapsed
      (Json.ofMembers [("margin", .number Json.WrittenNumber.long.number)])
      { margin := 60.0 } := by
    refine ⟨_, rfl, by decide, ?_⟩
    exact ⟨.absent (by simp), .absent (by simp),
      .given (List.mem_singleton.2 rfl) ((Json.showsFloat_iff _ _).2 read), .absent (by simp),
      .absent (by simp)⟩
  have shown : Json.ShowsConfiguration Json.Document.longMargin.value
      { elapsedChart := { margin := 60.0 } } := by
    refine ⟨[("elapsed_chart", Json.ofMembers
      [("margin", .number Json.WrittenNumber.long.number)])], rfl, by decide, ?_⟩
    refine ⟨.absent ?_, .absent ?_, .absent ?_, .absent ?_, .absent ?_, .given ?_ settings,
      .absent ?_⟩ <;> simp
  obtain ⟨⟨⟩, checked⟩ :
      ∃ done, ({ elapsedChart := { margin := 60.0 } } : Configuration).check = .ok done :=
    exists_of_isOk (by decide +kernel)
  have given := result_ofFile_json named holds
  simp only [Json.configuration?_of_shows _ _ shown, checked] at given
  have margin := nearest _ _ _ [("elapsed_chart", Json.ofMembers
    [("margin", .number Json.WrittenNumber.long.number)])] _ _ _ named holds rfl
    (List.mem_singleton.2 rfl) (List.mem_singleton.2 rfl) given
  have value : Binary64.value? 60.0 = some 60 := by decide +kernel
  have different :
      (60 : Rat) ≠ Binary64.rounded Json.WrittenNumber.long.number.decimal.value := by
    decide +kernel
  exact different (margin.value_eq value)

end Configuration

end BenchFigures
