import BenchFigures.Proofs.Loading
import BenchFigures.Proofs.Saving
import BenchFigures.Proofs.TextBytes

/-!
# Rows of a result file

A record describes a run if its first three fields are the numbers of the run, whatever
fields come after them. A result file is read exactly if each of its records after the
header describes a run and there is at least one. Which runs these are follows from the
bytes of the file alone: where the file is and which lines its records stand on is no
more than what a failure names.

Numbers hold no white space, so nothing is lost when a field is trimmed.
-/

namespace BenchFigures

open Text

/-! ### Numbers without white space -/

namespace Numeral

/-- A digit is not white space. -/
theorem isBlank_of_digit {character : Char} {digit : Nat} (read : digit? character = some digit) :
    isBlank character = false := by
  rw [digit?] at read
  split at read
  · next bounds =>
    have low : (48 : Nat) ≤ character.toNat := bounds.1
    have high : character.toNat ≤ (57 : Nat) := bounds.2
    rw [Bool.eq_false_iff, ne_eq, isBlank_iff]
    omega
  · simp at read

/-- Digits read within a limit are no white space. -/
theorem solid_of_magnitude {limit : Nat} {overflow : IntegerFault} {text : List Char}
    {before value : Nat} (read : magnitudeWithin limit overflow text before = .ok value) :
    ∀ character ∈ text, isBlank character = false := by
  induction text generalizing before with
  | nil => simp
  | cons character rest inductionHypothesis =>
    rw [magnitudeWithin] at read
    cases own : digit? character with
    | none => simp [own] at read
    | some digit =>
      simp only [own] at read
      split at read
      · simp at read
      · rw [List.forall_mem_cons]
        exact ⟨isBlank_of_digit own, inductionHypothesis read⟩

/-- A text that is read as an integer holds no white space. -/
theorem unblank_of_integer {text : List Char} {value : Int} (read : integer text = .ok value) :
    ∀ character ∈ text, isBlank character = false := by
  unfold integer at read
  split at read
  · simp
  · simp at read
  · simp at read
  · next digits _ =>
    cases size : magnitudeWithin (Nat.pow 2 63) .tooSmall digits 0 with
    | error fault => simp [size, bind, Except.bind] at read
    | ok _ => exact List.forall_mem_cons.2 ⟨by decide, solid_of_magnitude size⟩
  · next digits _ =>
    cases size : magnitudeWithin (Nat.pow 2 63 - 1) .tooLarge digits 0 with
    | error fault => simp [size, bind, Except.bind] at read
    | ok _ => exact List.forall_mem_cons.2 ⟨by decide, solid_of_magnitude size⟩
  · cases size : magnitudeWithin (Nat.pow 2 63 - 1) .tooLarge text 0 with
    | error fault => simp [size, bind, Except.bind] at read
    | ok _ => exact solid_of_magnitude size

/-- A text is free of white space if it is so after its sign. -/
theorem unblank_of_splitSign {text : List Char}
    (unblank : ∀ character ∈ (splitSign text).2, isBlank character = false) :
    ∀ character ∈ text, isBlank character = false := by
  unfold splitSign at unblank
  split at unblank
  · exact List.forall_mem_cons.2 ⟨by decide, unblank⟩
  · exact List.forall_mem_cons.2 ⟨by decide, unblank⟩
  · exact unblank

/-- Digits are not white space. -/
theorem unblank_of_digits {text : List Char}
    (digits : ∀ character ∈ text, isDigit character = true) :
    ∀ character ∈ text, isBlank character = false := by
  intro character member
  obtain ⟨digit, read⟩ := Option.isSome_iff_exists.1 (digits character member)
  exact isBlank_of_digit read

/-- The exponent of a decimal holds no white space. -/
theorem unblank_of_exponent {text : List Char} {exponent : Int}
    (read : exponent? text = some exponent) :
    ∀ character ∈ text, isBlank character = false := by
  unfold exponent? at read
  split at read
  · simp
  · next mark rest =>
    split at read
    · next marked =>
      simp only at read
      split at read
      · simp at read
      · next digits =>
        simp only [Bool.or_eq_true, Bool.not_eq_true', not_or, Bool.not_eq_false] at digits
        rw [List.forall_mem_cons]
        refine ⟨?_, unblank_of_splitSign (unblank_of_digits (List.all_eq_true.1 digits.2))⟩
        rcases marked with rfl | rfl <;> decide
    · simp at read

/-- A decimal holds no white space. -/
theorem unblank_of_decimal {text : List Char} {decimal : Decimal}
    (read : decimal? text = some decimal) :
    ∀ character ∈ text, isBlank character = false := by
  have leading {list : List Char} :
      ∀ character ∈ list.takeWhile isDigit, isBlank character = false :=
    unblank_of_digits fun character member => List.mem_takeWhile_imp member
  have split (list : List Char)
      (rest : ∀ character ∈ list.dropWhile isDigit, isBlank character = false) :
      ∀ character ∈ list, isBlank character = false := by
    rw [← List.takeWhile_append_dropWhile (p := isDigit) (l := list), List.forall_mem_append]
    exact ⟨leading, rest⟩
  unfold decimal? at read
  apply split
  cases afterWhole : text.dropWhile isDigit with
  | nil => simp
  | cons character rest =>
    rw [afterWhole] at read
    by_cases point : character = '.'
    · subst point
      simp only [Option.ite_none_left_eq_some, Option.bind_eq_bind, Option.bind_eq_some_iff] at read
      obtain ⟨-, exponent, marked, -⟩ := read
      exact List.forall_mem_cons.2 ⟨by decide, split rest (unblank_of_exponent marked)⟩
    · simp only [Option.ite_none_left_eq_some, Option.bind_eq_bind, Option.bind_eq_some_iff] at read
      obtain ⟨-, exponent, marked, -⟩ := read
      split at marked
      · next same => exact absurd (List.cons.inj same).1 point
      · exact unblank_of_exponent marked

/-- White space has no other lower case. -/
theorem toLower_of_isBlank {character : Char} (blank : isBlank character = true) :
    character.toLower = character := by
  rw [isBlank_iff] at blank
  rw [Char.toLower, dif_neg]
  rintro ⟨low, high⟩
  have atLeast : (65 : Nat) ≤ character.toNat := low
  have atMost : character.toNat ≤ (90 : Nat) := high
  omega

/-- The words for numbers without digits hold no white space. -/
theorem unblank_of_named {text : List Char} {number : Float} (read : named? text = some number) :
    ∀ character ∈ text, isBlank character = false := by
  intro character member
  rw [Bool.eq_false_iff]
  intro blank
  have lowered : character ∈ (String.ofList (text.map Char.toLower)).toList := by
    rw [String.toList_ofList, List.mem_map]
    exact ⟨character, member, toLower_of_isBlank blank⟩
  have letters (word : String) (unblank : ∀ letter ∈ word.toList, isBlank letter = false)
      (same : String.ofList (text.map Char.toLower) = word) : False := by
    rw [same] at lowered
    simp [unblank character lowered] at blank
  unfold named? at read
  split at read
  · exact letters "inf" (by simp; decide) (by assumption)
  · exact letters "infinity" (by simp; decide) (by assumption)
  · exact letters "nan" (by simp; decide) (by assumption)
  · simp at read

/-- A text that is read as a floating point number holds no white space. -/
theorem unblank_of_float {text : List Char} {number : Float} (read : float text = .ok number) :
    ∀ character ∈ text, isBlank character = false := by
  unfold float at read
  split at read
  · simp at read
  · simp only at read
    split at read
    · next size found =>
      apply unblank_of_splitSign
      rw [Option.orElse_eq_orElse, Option.orElse_eq_or, Option.or_eq_some_iff] at found
      rcases found with decimal | ⟨-, named⟩
      · obtain ⟨value, written, -⟩ := Option.map_eq_some_iff.1 decimal
        exact unblank_of_decimal written
      · exact unblank_of_named named
    · simp at read

end Numeral

/-! ### What a file says -/

namespace ResultFile

/-- The first three of some texts are the numbers of a run. -/
structure Describes (texts : List (List Char)) (run : Run Float) : Prop where
  index : ∃ text, texts[0]? = some text ∧ Numeral.integer text = .ok run.index
  elapsed : ∃ text, texts[1]? = some text ∧ Numeral.float text = .ok run.elapsed
  meanDeviation : ∃ text, texts[2]? = some text ∧ Numeral.float text = .ok run.meanDeviation

/-- A record holds texts that describe a run. -/
def Gives (record : Table.Record) (run : Run Float) : Prop :=
  ∃ texts, record.texts = .ok texts ∧ Describes texts run

/-- The records of a file, after the header, give some runs. -/
def Holds (bytes : List UInt8) (runs : List (Run Float)) : Prop :=
  List.Forall₂ Gives ((Table.records bytes).drop 1) runs

/-- A number is read exactly if the field is there and its text is that number. -/
theorem number_eq_ok_iff {α ε : Type} (file : Path) (line : Nat) (texts : List (List Char))
    (index : Nat) (cause : ε → Cause) (read : List Char → Except ε α) (value : α) :
    number file line texts index cause read = .ok value ↔
      ∃ text, texts[index]? = some text ∧ read text = .ok value := by
  unfold number field
  cases texts[index]? with
  | none => simp [bind, Except.bind]
  | some text => cases computed : read text <;> simp [bind, Except.bind, computed]

/-- A run is read field by field. -/
theorem run_eq (file : Path) (record : Table.Record) :
    run file record =
      (record.texts.mapError fun fault => (Cause.table fault).failure.during (.reading file)).bind
        fun texts =>
          (number file record.start.line texts 0 .notInteger Numeral.integer).bind fun index =>
            (number file record.start.line texts 1 .notFloat Numeral.float).bind fun elapsed =>
              (number file record.start.line texts 2 .notFloat Numeral.float).bind
                fun meanDeviation => .ok { index, elapsed, meanDeviation } := rfl

/-- A run is read from a record exactly if the record gives it. -/
theorem run_eq_ok_iff (file : Path) (record : Table.Record) (found : Run Float) :
    run file record = .ok found ↔ Gives record found := by
  simp only [run_eq, bind_eq_ok_iff, mapError_eq_ok_iff, number_eq_ok_iff]
  constructor
  · rintro ⟨texts, decoded, index, ownIndex, elapsed, ownElapsed, deviation, ownDeviation, same⟩
    obtain rfl := Except.ok.inj same
    exact ⟨texts, decoded, ownIndex, ownElapsed, ownDeviation⟩
  · rintro ⟨texts, decoded, ownIndex, ownElapsed, ownDeviation⟩
    exact ⟨texts, decoded, found.index, ownIndex, found.elapsed, ownElapsed, found.meanDeviation,
      ownDeviation, rfl⟩

/-- The runs of a file are read exactly if its records give them. -/
theorem runs_eq_ok_iff (file : Path) (bytes : List UInt8) (found : List (Run Float)) :
    runs file bytes = .ok found ↔ Holds bytes found := by
  rw [runs, mapM_eq_ok_iff, Holds]
  simp only [run_eq_ok_iff]

/-- What opening a file gives are its bytes. -/
theorem result_open?_eq_ok_iff (file : Path) (workspace : Workspace) (bytes : List UInt8) :
    (open? file).result workspace = .ok bytes ↔ workspace.fileBytes? file = some bytes := by
  rw [Workspace.fileBytes?, FileTree.read, Action.result, open?, Action.run_bind, Action.run_look]
  rcases workspace.tree.find workspace.working file with fault | _ | content
  · simp [bind, Except.bind, Action.result, Except.mapError]
  · simp [bind, Except.bind, Action.result, Except.mapError]
  · simp [bind, Except.bind]

/-- A sample of runs is made exactly if there are any. -/
theorem ofRuns_eq_ok_iff {α : Type} (runs : List (Run α)) (sample : Sample α) :
    Sample.ofRuns runs = .ok sample ↔ sample.runs = runs := by
  rw [Sample.ofRuns]
  split
  · next filled =>
    constructor
    · intro same
      obtain rfl := Except.ok.inj same
      rfl
    · intro same
      subst same
      rfl
  · next empty =>
    have none : runs = [] := not_not.1 empty
    simp [none, sample.runs_ne_nil]

/-- What reading gives, by the bytes of the file alone. -/
def outcome (file : Path) (bytes : List UInt8) : Except Failure (Sample Float) :=
  (runs file bytes).bind fun found =>
    (Sample.ofRuns found).mapError fun fault => ⟨[.validating file], .sample fault⟩

/-- The bytes of a file are read exactly if its records give runs, and at least one. -/
theorem outcome_eq_ok_iff (file : Path) (bytes : List UInt8) (sample : Sample Float) :
    outcome file bytes = .ok sample ↔ Holds bytes sample.runs := by
  rw [outcome, bind_eq_ok_iff]
  simp only [runs_eq_ok_iff, mapError_eq_ok_iff, ofRuns_eq_ok_iff]
  constructor
  · rintro ⟨found, given, same⟩
    exact same ▸ given
  · intro given
    exact ⟨sample.runs, given, rfl⟩

/-- Reading a file is opening it and seeing what its bytes say. -/
theorem result_read_eq (file : Path) (workspace : Workspace) :
    (read file).result workspace = ((open? file).result workspace).bind (outcome file) := by
  have validates (found : List (Run Float)) :
      ((Action.ofExcept Cause.sample (Sample.ofRuns found)).during (.validating file)).OnlyLooks :=
    (Action.OnlyLooks.ofExcept _ _).during _
  have reports (found : List (Run Float)) := (Action.OnlyLooks.report
    (.readRuns found.length file) (by simp)).bind fun _ => validates found
  rw [read, (open?_onlyLooks file).result_bind fun _ => (Action.OnlyLooks.ofResult _).bind reports]
  apply congrArg
  funext bytes
  rw [(Action.OnlyLooks.ofResult _).result_bind reports, outcome, Action.result,
    Action.run_ofResult]
  apply congrArg
  funext found
  cases made : Sample.ofRuns found <;>
    simp [Action.result, Action.run_bind, Except.mapError, Cause.failure, Failure.during]

/-- Reading a file that is there gives what its bytes say. -/
theorem result_read {file : Path} {workspace : Workspace} {bytes : List UInt8}
    (present : workspace.fileBytes? file = some bytes) :
    (read file).result workspace = outcome file bytes := by
  rw [result_read_eq, (result_open?_eq_ok_iff file workspace bytes).2 present, Except.bind]

/-- A result file is read exactly if its records give runs, and at least one. -/
theorem result_read_eq_ok_iff (file : Path) (workspace : Workspace) (sample : Sample Float) :
    (read file).result workspace = .ok sample ↔
      ∃ bytes, workspace.fileBytes? file = some bytes ∧ Holds bytes sample.runs := by
  rw [result_read_eq, bind_eq_ok_iff]
  simp only [result_open?_eq_ok_iff, outcome_eq_ok_iff]

end ResultFile

end BenchFigures
