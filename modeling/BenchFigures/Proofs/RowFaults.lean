import BenchFigures.Proofs.ResultRows

/-!
# Faults of rows

A result file is refused for the first of its records that gives no run, and this record
for its first fault: it is no text, or one of its first three fields is missing or no
number. Without a record there is nothing to refuse and nothing to keep, which is a fault
of the file as a whole.

What stands in further fields is of no account as long as it is text. It can move the
records after it, though, and a failure names where its record stands. So a failure is the
same up to the positions that it names, and the very same if the records stay in place.
-/

namespace BenchFigures

/-! ### Failures without positions -/

/-- A circumstance without the line that it names. -/
def Circumstance.unplaced : Circumstance → Circumstance
  | .field path _ index text => .field path 0 index text
  | other => other

/-- A cause without the line, the record and the byte that it names. -/
def Cause.unplaced : Cause → Cause
  | .missingField path _ index => .missingField path 0 index
  | .table (.notText _ index valid) => .table (.notText ⟨0, 0, 0⟩ index valid)
  | other => other

/-- A failure without the positions in a result file that it names. -/
def Failure.unplaced (failure : Failure) : Failure :=
  ⟨failure.circumstances.map Circumstance.unplaced, failure.cause.unplaced⟩

namespace Failure

/-- A circumstance comes first in the message of a failure. -/
theorem message_during (circumstance : Circumstance) (failure : Failure) :
    (failure.during circumstance).message = circumstance.message ++ ": " ++ failure.message := by
  obtain ⟨first, rest, listed⟩ : ∃ first rest, failure.texts = first :: rest := by
    cases listed : failure.texts with
    | nil => simp [texts] at listed
    | cons first rest => exact ⟨first, rest, rfl⟩
  have unfolded : (failure.during circumstance).texts = circumstance.message :: failure.texts := rfl
  rw [message, message, unfolded, listed, String.intercalate_cons_cons]

/-- Without circumstances the message is that of the cause. -/
theorem message_failure (cause : Cause) : cause.failure.message = cause.message :=
  String.intercalate_singleton

end Failure

namespace ResultFile

open Text Table

/-! ### Fields that are text -/

/-- The bytes of a field are text, but for white space at its ends. -/
def IsText (field : List UInt8) : Prop := (decode? (trimBoth isBlankByte field)).isSome = true

instance : DecidablePred IsText := fun field =>
  inferInstanceAs (Decidable ((decode? (trimBoth isBlankByte field)).isSome = true))

/-- How many bytes of a field come before the first one that is no text. White space at the
start does not count. -/
def validLength (field : List UInt8) : Nat := (decodeValid (trimBoth isBlankByte field)).2

/-- A field is decoded like this, in a record that is reported at some position. -/
def decodeField (position : RecordPosition) (field : List UInt8) (index : Nat) :
    Except TableFault (List Char) :=
  let bytes := trimBoth isBlankByte field
  let (characters, valid) := decodeValid bytes
  if valid = bytes.length then .ok (trim characters) else .error (.notText position index valid)

/-- Decoding a record is decoding its fields one by one. -/
theorem texts_eq (record : Record) :
    record.texts =
      record.fields.zipIdx.mapM fun field => decodeField record.reportedAt field.1 field.2 := rfl

/-- A field is text exactly if all of its bytes are. -/
theorem isText_iff (field : List UInt8) :
    IsText field ↔ validLength field = (trimBoth isBlankByte field).length := by
  simp only [IsText, validLength, decode?]
  split <;> simp [*]

/-- A field is decoded exactly if it is text. -/
theorem exists_decodeField_iff (position : RecordPosition) (field : List UInt8) (index : Nat) :
    (∃ decoded, decodeField position field index = .ok decoded) ↔ IsText field := by
  rw [isText_iff, validLength]
  simp only [decodeField]
  split <;> simp [*]

/-- A field that is no text is reported with the count of its valid bytes. -/
theorem decodeField_eq_error_iff (position : RecordPosition) (field : List UInt8) (index : Nat)
    (fault : TableFault) :
    decodeField position field index = .error fault ↔
      ¬ IsText field ∧ fault = .notText position index (validLength field) := by
  rw [isText_iff, validLength]
  simp only [decodeField]
  split
  · next whole => simp [whole]
  · next broken => simp [broken, @eq_comm _ fault]

/-- A record is no text exactly because of the first of its fields that is none. -/
theorem texts_eq_error_iff (record : Record) (fault : TableFault) :
    record.texts = .error fault ↔
      ∃ earlier field later, record.fields = earlier ++ field :: later ∧
        (∀ other ∈ earlier, IsText other) ∧ ¬ IsText field ∧
        fault = .notText record.reportedAt earlier.length (validLength field) := by
  rw [texts_eq, mapM_eq_error_iff]
  simp only [exists_decodeField_iff, decodeField_eq_error_iff]
  constructor
  · rintro ⟨earlier, ⟨field, index⟩, later, split, text, spoiled, rfl⟩
    obtain ⟨before, rest, whole, rfl, others⟩ := List.zipIdx_eq_append_iff.1 split
    obtain ⟨_, after, rfl, same, rfl⟩ := List.zipIdx_eq_cons_iff.1 others.symm
    obtain ⟨rfl, rfl⟩ := Prod.mk.inj same
    refine ⟨before, field, after, whole, ?_, spoiled, by simp⟩
    intro other member
    obtain ⟨place, inside, rfl⟩ := List.getElem_of_mem member
    exact text (before[place], place) (List.mk_mem_zipIdx_iff_getElem?.2 (by simp [inside]))
  · rintro ⟨earlier, field, later, split, text, spoiled, rfl⟩
    refine ⟨earlier.zipIdx, (field, earlier.length), later.zipIdx (earlier.length + 1), ?_, ?_,
      spoiled, rfl⟩
    · rw [split, List.zipIdx_append, List.zipIdx_cons, Nat.zero_add]
    · intro other member
      exact text other.1 (List.fst_mem_of_mem_zipIdx member)

/-! ### Faults -/

/-- What is wrong with the field of an index: it is missing, or it is no number. The first
field holds an integer, the others floating point numbers. -/
inductive FieldFault (file : Path) (line : Nat) (texts : List (List Char)) :
    Nat → Failure → Prop where
  | missing {index : Nat} (absent : texts[index]? = none) :
    FieldFault file line texts index ⟨[], .missingField file line index⟩
  | notInteger {text : List Char} {fault : IntegerFault} (present : texts[0]? = some text)
    (refused : Numeral.integer text = .error fault) :
    FieldFault file line texts 0 ⟨[.field file line 0 (String.ofList text)], .notInteger fault⟩
  | notFloat {index : Nat} {text : List Char} {fault : FloatFault} (later : 0 < index)
    (present : texts[index]? = some text) (refused : Numeral.float text = .error fault) :
    FieldFault file line texts index
      ⟨[.field file line index (String.ofList text)], .notFloat fault⟩

/-- What is wrong with a record: the first of its fields that is no text or, if all are text,
the fault of the lowest index among the first three. -/
inductive RecordFault (file : Path) (record : Record) : Failure → Prop where
  | unreadable {earlier later : List (List UInt8)} {field : List UInt8}
    (split : record.fields = earlier ++ field :: later) (text : ∀ other ∈ earlier, IsText other)
    (spoiled : ¬ IsText field) :
    RecordFault file record
      ⟨[.reading file], .table (.notText record.reportedAt earlier.length (validLength field))⟩
  | field {texts : List (List Char)} {index : Nat} {failure : Failure}
    (decoded : record.texts = .ok texts) (column : index < 3)
    (first : ∀ lower < index, ∀ other, ¬ FieldFault file record.start.line texts lower other)
    (fault : FieldFault file record.start.line texts index failure) :
    RecordFault file record failure

/-- Reading a number fails if the field is missing or its text is refused. -/
theorem number_eq_error_iff {α ε : Type} (file : Path) (line : Nat) (texts : List (List Char))
    (index : Nat) (cause : ε → Cause) (read : List Char → Except ε α) (failure : Failure) :
    number file line texts index cause read = .error failure ↔
      (texts[index]? = none ∧ failure = ⟨[], .missingField file line index⟩) ∨
        ∃ text fault, texts[index]? = some text ∧ read text = .error fault ∧
          failure = ⟨[.field file line index (String.ofList text)], cause fault⟩ := by
  unfold number field
  cases texts[index]? with
  | none => simp [bind, Except.bind, Cause.failure, eq_comm]
  | some text =>
    cases computed : read text <;>
      simp [bind, Except.bind, computed, Cause.failure, Failure.during, eq_comm]

/-- Reading the first field fails with its fault. -/
theorem integer_eq_error_iff (file : Path) (line : Nat) (texts : List (List Char))
    (failure : Failure) :
    number file line texts 0 .notInteger Numeral.integer = .error failure ↔
      FieldFault file line texts 0 failure := by
  rw [number_eq_error_iff]
  constructor
  · rintro (⟨absent, rfl⟩ | ⟨text, fault, present, refused, rfl⟩)
    · exact .missing absent
    · exact .notInteger present refused
  · rintro (⟨absent⟩ | ⟨present, refused⟩ | ⟨later, -, -⟩)
    · exact .inl ⟨absent, rfl⟩
    · exact .inr ⟨_, _, present, refused, rfl⟩
    · exact absurd later (Nat.lt_irrefl 0)

/-- Reading a further field fails with its fault. -/
theorem float_eq_error_iff (file : Path) (line : Nat) (texts : List (List Char)) {index : Nat}
    (later : 0 < index) (failure : Failure) :
    number file line texts index .notFloat Numeral.float = .error failure ↔
      FieldFault file line texts index failure := by
  rw [number_eq_error_iff]
  constructor
  · rintro (⟨absent, rfl⟩ | ⟨text, fault, present, refused, rfl⟩)
    · exact .missing absent
    · exact .notFloat later present refused
  · rintro (⟨absent⟩ | ⟨-, -⟩ | ⟨-, present, refused⟩)
    · exact .inl ⟨absent, rfl⟩
    · exact absurd later (Nat.lt_irrefl 0)
    · exact .inr ⟨_, _, present, refused, rfl⟩

/-- The first field is read exactly if nothing is wrong with it. -/
theorem exists_integer_iff (file : Path) (line : Nat) (texts : List (List Char)) :
    (∃ value, number file line texts 0 .notInteger Numeral.integer = .ok value) ↔
      ∀ failure, ¬ FieldFault file line texts 0 failure := by
  simp only [← integer_eq_error_iff]
  cases number file line texts 0 .notInteger Numeral.integer <;> simp

/-- A further field is read exactly if nothing is wrong with it. -/
theorem exists_float_iff (file : Path) (line : Nat) (texts : List (List Char)) {index : Nat}
    (later : 0 < index) :
    (∃ value, number file line texts index .notFloat Numeral.float = .ok value) ↔
      ∀ failure, ¬ FieldFault file line texts index failure := by
  simp only [← float_eq_error_iff file line texts later]
  cases number file line texts index .notFloat Numeral.float <;> simp

/-- A record is refused exactly for its first fault. -/
theorem run_eq_error_iff (file : Path) (record : Record) (failure : Failure) :
    run file record = .error failure ↔ RecordFault file record failure := by
  simp only [run_eq, bind_eq_error_iff, mapError_eq_error_iff, mapError_eq_ok_iff,
    texts_eq_error_iff, integer_eq_error_iff, float_eq_error_iff file _ _ Nat.one_pos,
    float_eq_error_iff file _ _ Nat.two_pos]
  constructor
  · rintro (⟨_, ⟨earlier, field, later, split, text, spoiled, rfl⟩, rfl⟩ | ⟨texts, decoded, failed⟩)
    · exact .unreadable split text spoiled
    · rcases failed with zero | ⟨index, readIndex, one | ⟨elapsed, readElapsed, two | absurd⟩⟩
      · exact .field decoded (by decide) (by simp) zero
      · have noZero := (exists_integer_iff file _ texts).1 ⟨index, readIndex⟩
        refine .field decoded (by decide) ?_ one
        intro lower below
        obtain rfl : lower = 0 := by omega
        exact noZero
      · have noZero := (exists_integer_iff file _ texts).1 ⟨index, readIndex⟩
        have noOne := (exists_float_iff file _ texts Nat.one_pos).1 ⟨elapsed, readElapsed⟩
        refine .field decoded (by decide) ?_ two
        intro lower below
        obtain rfl | rfl : lower = 0 ∨ lower = 1 := by omega
        · exact noZero
        · exact noOne
      · simp at absurd
  · rintro (⟨split, text, spoiled⟩ | ⟨decoded, column, first, fault⟩)
    · exact .inl ⟨_, ⟨_, _, _, split, text, spoiled, rfl⟩, rfl⟩
    · rename_i texts index
      refine .inr ⟨texts, decoded, ?_⟩
      rcases index with _ | _ | _ | beyond
      · exact .inl fault
      · obtain ⟨value, readIndex⟩ := (exists_integer_iff file _ texts).2 (first 0 (by decide))
        exact .inr ⟨value, readIndex, .inl fault⟩
      · obtain ⟨value, readIndex⟩ := (exists_integer_iff file _ texts).2 (first 0 (by decide))
        obtain ⟨elapsed, readElapsed⟩ :=
          (exists_float_iff file _ texts Nat.one_pos).2 (first 1 (by decide))
        exact .inr ⟨value, readIndex, .inr ⟨elapsed, readElapsed, .inl fault⟩⟩
      · omega

/-- A file is refused for the first of its records that is refused or, if there is no record,
for having none. -/
theorem outcome_eq_error_iff (file : Path) (bytes : List UInt8) (failure : Failure) :
    outcome file bytes = .error failure ↔
      (∃ earlier record later, (Table.records bytes).drop 1 = earlier ++ record :: later ∧
        (∀ other ∈ earlier, ∃ found, Gives other found) ∧ RecordFault file record failure) ∨
      ((Table.records bytes).drop 1 = [] ∧ failure = ⟨[.validating file], .sample .noRun⟩) := by
  have emptied (found : List (Run Float)) :
      ((Sample.ofRuns found).mapError fun fault =>
          (⟨[.validating file], .sample fault⟩ : Failure)) =
        .error failure ↔ found = [] ∧ failure = ⟨[.validating file], .sample .noRun⟩ := by
    rw [Sample.ofRuns]
    by_cases filled : found ≠ []
    · simp [Except.mapError, filled]
    · simp [Except.mapError, not_not.1 filled, eq_comm]
  rw [outcome, bind_eq_error_iff]
  refine or_congr ?_ ?_
  · rw [runs, mapM_eq_error_iff]
    simp only [run_eq_ok_iff, run_eq_error_iff]
  · simp only [runs_eq_ok_iff, emptied, Holds]
    constructor
    · rintro ⟨found, given, rfl, rfl⟩
      exact ⟨List.forall₂_nil_right_iff.1 given, rfl⟩
    · rintro ⟨none, rfl⟩
      exact ⟨[], none ▸ .nil, rfl, rfl⟩

/-! ### Records that are moved or extended -/

/-- Where a field is only plays a part in its fault. -/
theorem decodeField_unplaced (file : Path) (position other : RecordPosition) (field : List UInt8)
    (index : Nat) :
    (decodeField position field index).mapError
        (fun fault => ((Cause.table fault).failure.during (.reading file)).unplaced) =
      (decodeField other field index).mapError
        (fun fault => ((Cause.table fault).failure.during (.reading file)).unplaced) := by
  simp only [decodeField]
  split <;> rfl

/-- Where a number stands only plays a part in the failure to read it. -/
theorem number_unplaced {α ε : Type} (file : Path) (line other : Nat) (texts : List (List Char))
    (index : Nat) (cause : ε → Cause) (read : List Char → Except ε α) :
    (number file line texts index cause read).mapError Failure.unplaced =
      (number file other texts index cause read).mapError Failure.unplaced := by
  unfold number field
  cases texts[index]? with
  | none => rfl
  | some text =>
    cases computed : read text with
    | error fault =>
      simp only [bind, Except.bind, computed]
      rfl
    | ok value => simp only [bind, Except.bind, computed]

/-- Where a record is only plays a part in the failure to read it. -/
theorem run_unplaced (file : Path) {record other : Record} (same : other.fields = record.fields) :
    (run file other).mapError Failure.unplaced = (run file record).mapError Failure.unplaced := by
  have texts : (other.texts.mapError fun fault =>
        (Cause.table fault).failure.during (.reading file)).mapError Failure.unplaced =
      (record.texts.mapError fun fault =>
        (Cause.table fault).failure.during (.reading file)).mapError Failure.unplaced := by
    have joined (computed : Except TableFault (List (List Char))) :
        (computed.mapError fun fault =>
          (Cause.table fault).failure.during (.reading file)).mapError Failure.unplaced =
        computed.mapError fun fault =>
          ((Cause.table fault).failure.during (.reading file)).unplaced := by
      cases computed <;> rfl
    rw [joined, joined, texts_eq, texts_eq, mapError_mapM, mapError_mapM, same]
    simp only [decodeField_unplaced file other.reportedAt record.reportedAt]
  simp only [run_eq, mapError_bind, texts,
    number_unplaced file other.start.line record.start.line]

/-- Two records of a table have the same first three fields, and their other fields are
text. -/
structure SameColumns (record other : Record) : Prop where
  columns : other.fields.take 3 = record.fields.take 3
  text : ∀ field ∈ record.fields.drop 3 ++ other.fields.drop 3, IsText field

instance (record other : Record) : Decidable (SameColumns record other) :=
  decidable_of_iff (other.fields.take 3 = record.fields.take 3 ∧
    ∀ field ∈ record.fields.drop 3 ++ other.fields.drop 3, IsText field)
    ⟨fun ⟨columns, text⟩ => ⟨columns, text⟩, fun same => ⟨same.columns, same.text⟩⟩

/-- The texts of a record are those of its first three fields and then further ones. -/
theorem exists_texts_eq {record : Record} (text : ∀ field ∈ record.fields.drop 3, IsText field) :
    ∃ more, (record.fields.length < 3 → more = []) ∧
      record.texts = (Record.texts ⟨record.fields.take 3, record.start⟩).map (· ++ more) := by
  obtain ⟨more, decoded⟩ : ∃ more,
      ((record.fields.drop 3).zipIdx (record.fields.take 3).length).mapM
        (fun field => decodeField record.reportedAt field.1 field.2) = .ok more := by
    rw [exists_mapM_eq_ok_iff]
    intro field member
    exact (exists_decodeField_iff _ _ _).2 (text _ (List.fst_mem_of_mem_zipIdx member))
  refine ⟨more, ?_, ?_⟩
  · intro short
    rw [List.drop_eq_nil_of_le (Nat.le_of_lt short)] at decoded
    exact (Except.ok.inj decoded).symm
  · have split : record.fields.zipIdx = (record.fields.take 3).zipIdx ++
        (record.fields.drop 3).zipIdx (record.fields.take 3).length := by
      rw [← Nat.zero_add (record.fields.take 3).length, ← List.zipIdx_append,
        List.take_append_drop]
    rw [texts_eq, texts_eq, split, List.mapM_append, decoded]
    change _ = Except.map _ ((record.fields.take 3).zipIdx.mapM fun field =>
      decodeField record.reportedAt field.1 field.2)
    cases (record.fields.take 3).zipIdx.mapM fun field =>
      decodeField record.reportedAt field.1 field.2 <;> rfl

/-- A number is read alike from texts that have the same at its index. -/
theorem number_congr {α ε : Type} (file : Path) (line : Nat) {texts other : List (List Char)}
    {index : Nat} (same : other[index]? = texts[index]?) (cause : ε → Cause)
    (read : List Char → Except ε α) :
    number file line other index cause read = number file line texts index cause read := by
  unfold number field
  rw [same]

/-- Fields after the third play no part in reading a run, as long as they are text. -/
theorem run_extended (file : Path) {record other : Record} (same : SameColumns record other)
    (start : other.start = record.start) : run file other = run file record := by
  obtain ⟨textHere, textThere⟩ := List.forall_mem_append.1 same.text
  obtain ⟨more, short, here⟩ := exists_texts_eq textHere
  obtain ⟨others, shortOther, there⟩ := exists_texts_eq textThere
  rw [start, same.columns] at there
  rw [run_eq, run_eq, here, there, start]
  cases decoded : Record.texts ⟨record.fields.take 3, record.start⟩ with
  | error fault => rfl
  | ok columns =>
    have count : columns.length = min 3 record.fields.length := by
      rw [texts_eq, mapM_eq_ok_iff] at decoded
      simpa using decoded.length_eq.symm
    have alike (index : Nat) (column : index < 3) :
        (columns ++ others)[index]? = (columns ++ more)[index]? := by
      by_cases inside : index < columns.length
      · rw [List.getElem?_append_left inside, List.getElem?_append_left inside]
      · have lengths := congrArg List.length same.columns
        rw [List.length_take, List.length_take] at lengths
        rw [short (by omega), shortOther (by omega)]
    change Except.bind (.ok (columns ++ others)) _ = Except.bind (.ok (columns ++ more)) _
    simp only [Except.bind, number_congr file _ (alike 0 (by decide)),
      number_congr file _ (alike 1 (by decide)), number_congr file _ (alike 2 (by decide))]

/-- Records with the same columns are read alike, up to where they are. -/
theorem run_sameColumns (file : Path) {record other : Record} (same : SameColumns record other) :
    (run file other).mapError Failure.unplaced = (run file record).mapError Failure.unplaced := by
  have extended : run file ⟨other.fields, record.start⟩ = run file record :=
    run_extended file ⟨same.columns, same.text⟩ rfl
  rw [← extended]
  exact run_unplaced file rfl

/-! ### Files -/

/-- Files whose records have the same first three fields are read alike, but for the positions
that a failure names. -/
theorem outcome_unplaced (file : Path) {bytes other : List UInt8}
    (same : List.Forall₂ SameColumns ((Table.records bytes).drop 1)
      ((Table.records other).drop 1)) :
    (outcome file other).mapError Failure.unplaced =
      (outcome file bytes).mapError Failure.unplaced := by
  have alike : List.Forall₂ (fun record moved =>
        (run file record).mapError Failure.unplaced = (run file moved).mapError Failure.unplaced)
      ((Table.records bytes).drop 1) ((Table.records other).drop 1) :=
    same.imp fun _ _ columns => (run_sameColumns file columns).symm
  rw [outcome, outcome, mapError_bind, mapError_bind, runs, runs, mapError_mapM, mapError_mapM,
    mapM_congr_of_forall₂ alike]

/-- If the records start where they did, the files are read alike altogether. -/
theorem outcome_of_starts (file : Path) {bytes other : List UInt8}
    (same : List.Forall₂ SameColumns ((Table.records bytes).drop 1) ((Table.records other).drop 1))
    (starts : List.Forall₂ (fun moved record : Record => moved.start = record.start)
      ((Table.records other).drop 1) ((Table.records bytes).drop 1)) :
    outcome file other = outcome file bytes := by
  have alike : List.Forall₂ (fun record moved => run file record = run file moved)
      ((Table.records bytes).drop 1) ((Table.records other).drop 1) :=
    List.Forall₂.mp (fun _ _ columns start => (run_extended file columns start).symm) same
      starts.flip
  rw [outcome, outcome, runs, runs, mapM_congr_of_forall₂ alike]

/-- A record gives a run exactly if it is text and its first three texts are the numbers of
the run. -/
theorem gives_iff (record : Record) (found : Run Float) :
    Gives record found ↔ ∃ first second third more,
      record.texts = .ok (first :: second :: third :: more) ∧
        Numeral.integer first = .ok found.index ∧ Numeral.float second = .ok found.elapsed ∧
        Numeral.float third = .ok found.meanDeviation := by
  constructor
  · rintro ⟨texts, decoded, ⟨first, atFirst, index⟩, ⟨second, atSecond, elapsed⟩,
      third, atThird, deviation⟩
    obtain ⟨more, rfl⟩ : ∃ more, texts = first :: second :: third :: more := by
      rcases texts with _ | ⟨_, _ | ⟨_, _ | ⟨_, more⟩⟩⟩ <;> simp_all
    exact ⟨first, second, third, more, decoded, index, elapsed, deviation⟩
  · rintro ⟨first, second, third, more, decoded, index, elapsed, deviation⟩
    exact ⟨_, decoded, ⟨first, rfl, index⟩, ⟨second, rfl, elapsed⟩, ⟨third, rfl, deviation⟩⟩

/-- A file gives some runs exactly if there is a record and each record gives one. -/
theorem exists_outcome_iff (file : Path) (bytes : List UInt8) :
    (∃ sample, outcome file bytes = .ok sample) ↔
      (Table.records bytes).drop 1 ≠ [] ∧
        ∀ record ∈ (Table.records bytes).drop 1, ∃ found, Gives record found := by
  simp only [outcome_eq_ok_iff, Holds]
  constructor
  · rintro ⟨sample, given⟩
    refine ⟨?_, ?_⟩
    · intro none
      rw [none] at given
      exact sample.runs_ne_nil (List.forall₂_nil_left_iff.1 given)
    · intro record member
      obtain ⟨place, inside, rfl⟩ := List.getElem_of_mem member
      exact ⟨_, given.get inside (given.length_eq ▸ inside)⟩
  · rintro ⟨some, every⟩
    simp only [← run_eq_ok_iff file, ← exists_mapM_eq_ok_iff] at every
    obtain ⟨found, computed⟩ := every
    have given := (runs_eq_ok_iff file bytes found).1 computed
    refine ⟨⟨found, ?_⟩, given⟩
    rintro rfl
    exact some (List.forall₂_nil_right_iff.1 given)

/-- The columns of what is read are the numbers of the records, one after the other. -/
theorem columns_of_outcome {file : Path} {bytes : List UInt8} {sample : Sample Float}
    (succeeded : outcome file bytes = .ok sample) :
    let records : List Record := (Table.records bytes).drop 1
    sample.indexes.length = records.length ∧ sample.elapsed.length = records.length ∧
      sample.meanDeviations.length = records.length ∧
      ∀ (place : Nat) (record : Record), records[place]? = some record →
        ∃ first second third more index elapsed deviation,
          record.texts = .ok (first :: second :: third :: more) ∧
          Numeral.integer first = .ok index ∧ sample.indexes[place]? = some index ∧
          Numeral.float second = .ok elapsed ∧ sample.elapsed[place]? = some elapsed ∧
          Numeral.float third = .ok deviation ∧ sample.meanDeviations[place]? = some deviation := by
  intro records
  have given : List.Forall₂ Gives records sample.runs :=
    (outcome_eq_ok_iff file bytes sample).1 succeeded
  have lengths := given.length_eq
  refine ⟨by simp [Sample.indexes, lengths], by simp [Sample.elapsed, lengths],
    by simp [Sample.meanDeviations, lengths], ?_⟩
  intro place record found
  obtain ⟨inside, rfl⟩ := List.getElem?_eq_some_iff.1 found
  have within : place < sample.runs.length := lengths ▸ inside
  obtain ⟨first, second, third, more, decoded, index, elapsed, deviation⟩ :=
    (gives_iff _ _).1 (given.get inside within)
  exact ⟨first, second, third, more, _, _, _, decoded,
    index, by simp [Sample.indexes, within], elapsed, by simp [Sample.elapsed, within],
    deviation, by simp [Sample.meanDeviations, within]⟩

/-- The message of the failure for a file without records. -/
theorem message_noRun (file : Path) :
    (⟨[.validating file], .sample .noRun⟩ : Failure).message =
      s!"invalid {file.text}" ++ ": " ++ "benchmark holds no run" := by
  have whole := Failure.message_during (.validating file) (Cause.sample .noRun).failure
  rw [Failure.message_failure] at whole
  exact whole

/-- No single record has the fault of a file without records. -/
theorem not_recordFault_noRun (file : Path) (record : Record) :
    ¬ RecordFault file record ⟨[.validating file], .sample .noRun⟩ := by
  generalize failed : (⟨[.validating file], .sample .noRun⟩ : Failure) = failure
  rintro (⟨-, -, -⟩ | ⟨-, -, -, _ | _ | _⟩) <;> simp at failed

/-- A result file is read exactly if it has a record after the header and each of them is
text with three numbers first. Then the columns hold these numbers, record by record.
Otherwise the first record that gives no run decides the failure, by the first of its
faults, and a file without records fails for having none. Fields after the third may be
other texts, or more or fewer: what reading gives stays the same up to the positions that a
failure names, and stays the very same if the records start where they did. -/
theorem read_rows_or_first_fault {file : Path} {workspace : Workspace} {bytes : List UInt8}
    (present : workspace.fileBytes? file = some bytes) :
    let records : List Record := (Table.records bytes).drop 1
    ((∃ sample, (read file).result workspace = .ok sample) ↔
      records ≠ [] ∧ ∀ record ∈ records, ∃ first second third more,
        record.texts = .ok (first :: second :: third :: more) ∧
          (∃ index, Numeral.integer first = .ok index) ∧
          (∃ elapsed, Numeral.float second = .ok elapsed) ∧
          ∃ deviation, Numeral.float third = .ok deviation) ∧
    (∀ sample, (read file).result workspace = .ok sample →
      sample.indexes.length = records.length ∧ sample.elapsed.length = records.length ∧
      sample.meanDeviations.length = records.length ∧
      ∀ (place : Nat) (record : Record), records[place]? = some record →
        ∃ first second third more index elapsed deviation,
          record.texts = .ok (first :: second :: third :: more) ∧
          Numeral.integer first = .ok index ∧ sample.indexes[place]? = some index ∧
          Numeral.float second = .ok elapsed ∧ sample.elapsed[place]? = some elapsed ∧
          Numeral.float third = .ok deviation ∧ sample.meanDeviations[place]? = some deviation) ∧
    (∀ failure, (read file).result workspace = .error failure ↔
      (∃ earlier record later, records = earlier ++ record :: later ∧
        (∀ other ∈ earlier, ∃ found, Gives other found) ∧ RecordFault file record failure) ∨
      (records = [] ∧ failure = ⟨[.validating file], .sample .noRun⟩)) ∧
    ((read file).result workspace = .error ⟨[.validating file], .sample .noRun⟩ ↔ records = []) ∧
    (⟨[.validating file], .sample .noRun⟩ : Failure).message =
      s!"invalid {file.text}" ++ ": " ++ "benchmark holds no run" ∧
    ∀ other elsewhere, elsewhere.fileBytes? file = some other →
      List.Forall₂ SameColumns records ((Table.records other).drop 1) →
      ((read file).result elsewhere).mapError Failure.unplaced =
        ((read file).result workspace).mapError Failure.unplaced ∧
      (((Table.records other).drop 1).map Record.start = records.map Record.start →
        (read file).result elsewhere = (read file).result workspace) := by
  intro records
  rw [result_read present]
  refine ⟨?_, ?_, outcome_eq_error_iff file bytes, ?_, ?_, ?_⟩
  · rw [exists_outcome_iff]
    refine and_congr_right fun _ => forall₂_congr fun record _ => ?_
    simp only [gives_iff]
    constructor
    · rintro ⟨found, first, second, third, more, decoded, index, elapsed, deviation⟩
      exact ⟨first, second, third, more, decoded, ⟨_, index⟩, ⟨_, elapsed⟩, _, deviation⟩
    · rintro ⟨first, second, third, more, decoded, ⟨_, index⟩, ⟨_, elapsed⟩, _, deviation⟩
      exact ⟨⟨_, _, _⟩, first, second, third, more, decoded, index, elapsed, deviation⟩
  · exact fun sample succeeded => columns_of_outcome succeeded
  · rw [outcome_eq_error_iff]
    simp [not_recordFault_noRun, records]
  · exact message_noRun file
  · intro other elsewhere presentThere same
    rw [result_read presentThere]
    refine ⟨outcome_unplaced file same, fun starts => ?_⟩
    exact outcome_of_starts file same ((map_eq_map_iff_forall₂ _ _ _ _).1 starts)

/-- A file whose second record has a word for a number and no third field fails for the word,
on its line. -/
theorem read_word :
    let workspace : Workspace :=
      { tree := FileTree.empty.put ["runs.csv"]
          (.file (.plain (encode "run,ms,dev\n1,2.5,0.5,note\n2,fast\n".toList)))
        working := [], font := none, events := [] }
    (read ⟨"runs.csv"⟩).result workspace =
      .error ⟨[.field ⟨"runs.csv"⟩ 3 1 "fast"], .notFloat .invalid⟩ := by
  intro workspace
  let good : Record := ⟨["1", "2.5", "0.5", "note"].map (encode ·.toList), ⟨1, 2, 11⟩⟩
  let bad : Record := ⟨["2", "fast"].map (encode ·.toList), ⟨2, 3, 26⟩⟩
  have failures := (@read_rows_or_first_fault ⟨"runs.csv"⟩ workspace _ rfl).2.2.1
  refine (failures _).2 (.inl ⟨[good], bad, [], by decide +kernel, ?_, ?_⟩)
  · rw [List.forall_mem_singleton]
    exact ⟨⟨1, 2.5, 0.5⟩, (gives_iff _ _).2 ⟨"1".toList, "2.5".toList, "0.5".toList,
      ["note".toList], by decide +kernel, by decide +kernel, by decide +kernel, by decide +kernel⟩⟩
  · have decoded : bad.texts = .ok ["2".toList, "fast".toList] := by decide +kernel
    refine .field decoded (by decide) ?_ (.notFloat (by decide) rfl (by decide +kernel))
    intro lower below
    obtain rfl : lower = 0 := by omega
    exact (exists_integer_iff ⟨"runs.csv"⟩ 3 _).1 ⟨2, rfl⟩

/-- A further field can change what reading gives: a line feed in it moves the records after
it, and a failure names another line. -/
theorem not_read_regardless_of_further_fields :
    ¬ ∀ (file : Path) (workspace elsewhere : Workspace) (bytes other : List UInt8),
      workspace.fileBytes? file = some bytes → elsewhere.fileBytes? file = some other →
      List.Forall₂ SameColumns ((Table.records bytes).drop 1) ((Table.records other).drop 1) →
      (read file).result elsewhere = (read file).result workspace := by
  intro same
  let holding (text : String) : Workspace :=
    { tree := FileTree.empty.put ["runs.csv"] (.file (.plain (encode text.toList)))
      working := [], font := none, events := [] }
  have alike := same ⟨"runs.csv"⟩ (holding "run\n1,2,3\nx,2,3\n")
    (holding "run\n1,2,3,\"a\nb\"\nx,2,3\n") _ _ rfl rfl (by decide +kernel)
  have here : outcome ⟨"runs.csv"⟩ (encode "run\n1,2,3\nx,2,3\n".toList) =
      .error ⟨[.field ⟨"runs.csv"⟩ 3 0 "x"], .notInteger .invalidDigit⟩ := rfl
  have there : outcome ⟨"runs.csv"⟩ (encode "run\n1,2,3,\"a\nb\"\nx,2,3\n".toList) =
      .error ⟨[.field ⟨"runs.csv"⟩ 4 0 "x"], .notInteger .invalidDigit⟩ := rfl
  rw [@result_read _ (holding _) (encode "run\n1,2,3,\"a\nb\"\nx,2,3\n".toList) rfl, there,
    @result_read _ (holding _) (encode "run\n1,2,3\nx,2,3\n".toList) rfl, here] at alike
  simp at alike

end ResultFile

end BenchFigures
