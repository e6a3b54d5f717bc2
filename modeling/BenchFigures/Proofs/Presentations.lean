import BenchFigures.Proofs.ResultRows

/-!
# Presentations of a table

One and the same table can be written in many ways: with a byte order mark or without,
with empty lines anywhere, with any ending of each line, and with each field in quotes or
bare and between white space. The reader sees through all of this. Run over the bytes of
a field it gathers the field's content, run over a line it completes the record, and
between lines it is back where it started, so a whole table is read line by line.

What stands in the header, and in fields after the third, has no influence on the runs
that a result file gives.
-/

namespace BenchFigures.Table

open Text

/-! ### How tables are written -/

/-- How a line ends. -/
inductive LineEnd where
  | lineFeed
  | carriageReturn
  | both
  deriving DecidableEq, Repr

/-- The bytes of a line's end. -/
def LineEnd.bytes : LineEnd → List UInt8
  | .lineFeed => [0x0A]
  | .carriageReturn => [0x0D]
  | .both => [0x0D, 0x0A]

/-- The ends of several lines with nothing in them. -/
def lineEnds (ends : List LineEnd) : List UInt8 := ends.flatMap LineEnd.bytes

/-- A byte that stands for itself outside quotes. -/
def IsPlain (byte : UInt8) : Prop := byte ≠ Reader.comma ∧ Reader.isLineEnd byte = false

instance : DecidablePred IsPlain := fun byte =>
  inferInstanceAs (Decidable (byte ≠ Reader.comma ∧ Reader.isLineEnd byte = false))

/-- A content that needs no quotes: it has no comma, stays on its line and does not start
with a quote. -/
structure IsBare (content : List UInt8) : Prop where
  plain : ∀ byte ∈ content, IsPlain byte
  head : content.head? ≠ some Reader.quote

instance : DecidablePred IsBare := fun content =>
  decidable_of_iff ((∀ byte ∈ content, IsPlain byte) ∧ content.head? ≠ some Reader.quote)
    ⟨fun ⟨plain, head⟩ => ⟨plain, head⟩, fun bare => ⟨bare.plain, bare.head⟩⟩

/-- A content between quotes, each quote in it doubled. -/
def doubled (content : List UInt8) : List UInt8 :=
  content.flatMap fun byte => if byte = Reader.quote then [byte, byte] else [byte]

/-- A field as it is written. Only a content that needs no quotes can do without. -/
structure Field where
  content : List UInt8
  quoted : Bool
  bare : quoted = false → IsBare content

/-- The bytes of a field. -/
def Field.bytes (field : Field) : List UInt8 :=
  if field.quoted then Reader.quote :: (doubled field.content ++ [Reader.quote])
  else field.content

/-- The bytes of the fields of one record. -/
def recordBytes : List Field → List UInt8
  | [] => []
  | [field] => field.bytes
  | field :: rest => field.bytes ++ Reader.comma :: recordBytes rest

/-- A line with a record: the end of the line comes first among its ends, and then those
of the empty lines after it. -/
structure Line where
  fields : List Field
  ends : List LineEnd

/-- The bytes of a line and of the empty lines after it. -/
def Line.bytes (line : Line) : List UInt8 := recordBytes line.fields ++ lineEnds line.ends

/-- The contents of a line's fields. -/
def Line.contents (line : Line) : List (List UInt8) := line.fields.map Field.content

/-- The byte order mark. -/
def mark : List UInt8 := [0xEF, 0xBB, 0xBF]

/-- A way to write a table. The header is not an empty line and does not start with a byte
order mark of its own. Only the last line may have no end. -/
structure Presentation where
  marked : Bool
  /-- The ends of the empty lines before the header. -/
  leading : List LineEnd
  header : Line
  rows : List Line
  filled : recordBytes header.fields ≠ []
  unmarked : ¬ mark <+: recordBytes header.fields
  ended : ∀ line ∈ (header :: rows).dropLast, line.ends ≠ []

/-- The bytes of a table. -/
def Presentation.bytes (presentation : Presentation) : List UInt8 :=
  (if presentation.marked then mark else []) ++ lineEnds presentation.leading ++
    (presentation.header :: presentation.rows).flatMap Line.bytes

/-! ### Steps of the reader -/

namespace Reader

/-- What a reader has, wherever it is: its mode, the current field, the fields before it
and the fields of the records before. -/
structure Has (reader : Reader) (mode : Mode) (field : List UInt8) (fields : List (List UInt8))
    (records : List (List (List UInt8))) : Prop where
  mode_eq : reader.mode = mode
  field_eq : reader.field.toList = field
  fields_eq : reader.fields.toList = fields
  records_eq : reader.records.toList.map Record.fields = records

variable {reader : Reader} {mode : Mode} {field : List UInt8} {fields : List (List UInt8)}
  {records : List (List (List UInt8))} {byte : UInt8}

namespace Has

/-- Taking note of a byte changes nothing that a reader has. -/
theorem count (has : reader.Has mode field fields records) (byte : UInt8) :
    (reader.count byte).Has mode field fields records :=
  ⟨has.mode_eq, has.field_eq, has.fields_eq, has.records_eq⟩

theorem push (has : reader.Has mode field fields records) (next : Mode) (byte : UInt8) :
    (reader.push next byte).Has next (field ++ [byte]) fields records :=
  ⟨rfl, by simp [Reader.push, has.field_eq], has.fields_eq, has.records_eq⟩

theorem endField (has : reader.Has mode field fields records) :
    reader.endField.Has .fresh [] (fields ++ [field]) records :=
  ⟨rfl, rfl, by simp [Reader.endField, has.fields_eq, has.field_eq], has.records_eq⟩

theorem endRecord (has : reader.Has mode field fields records) :
    reader.endRecord.Has .between [] [] (records ++ [fields ++ [field]]) :=
  ⟨rfl, rfl, rfl, by
    simp [Reader.endRecord, has.fields_eq, has.field_eq, ← has.records_eq]⟩

end Has

/-- Outside quotes a byte that is no quote does what it does in a plain field. Only a line's
end between records does nothing. -/
theorem step_eq_stepPlain (unquoted : reader.mode ≠ .quoted)
    (noQuote : byte ≠ quote ∨ reader.mode = .plain)
    (begun : reader.mode ≠ .between ∨ isLineEnd byte = false) :
    reader.step byte = (reader.count byte).stepPlain byte := by
  have same : (reader.count byte).mode = reader.mode := rfl
  unfold step
  simp only [same]
  cases mode : reader.mode with
  | between =>
    have inLine : isLineEnd byte = false := begun.resolve_left (by simp [mode])
    have other : byte ≠ quote := noQuote.resolve_right (by simp [mode])
    simp [inLine, stepFresh, other]
  | fresh =>
    have other : byte ≠ quote := noQuote.resolve_right (by simp [mode])
    simp [stepFresh, other]
  | plain => rfl
  | quoted => exact absurd mode unquoted
  | closing =>
    have other : byte ≠ quote := noQuote.resolve_right (by simp [mode])
    simp [other]

namespace Has

/-- A comma outside quotes ends the field. -/
theorem step_comma (has : reader.Has mode field fields records) (unquoted : mode ≠ .quoted) :
    (reader.step comma).Has .fresh [] (fields ++ [field]) records := by
  rw [step_eq_stepPlain (has.mode_eq ▸ unquoted) (.inl (by decide)) (.inr rfl)]
  exact (has.count comma).endField

/-- The end of a line outside quotes ends the record, if one was begun. -/
theorem step_end (has : reader.Has mode field fields records) (unquoted : mode ≠ .quoted)
    (begun : mode ≠ .between) (ends : isLineEnd byte = true) :
    (reader.step byte).Has .between [] [] (records ++ [fields ++ [field]]) := by
  have noComma : byte ≠ comma := by
    rintro rfl
    exact absurd ends (by decide)
  have noQuote : byte ≠ quote := by
    rintro rfl
    exact absurd ends (by decide)
  rw [step_eq_stepPlain (has.mode_eq ▸ unquoted) (.inl noQuote) (.inl (has.mode_eq ▸ begun)),
    stepPlain, if_neg noComma, if_pos ends]
  exact (has.count byte).endRecord

/-- Between records the end of a line does nothing. -/
theorem step_idle (has : reader.Has .between field fields records)
    (ends : isLineEnd byte = true) : (reader.step byte).Has .between field fields records := by
  have same : (reader.count byte).mode = .between := has.mode_eq
  unfold step
  simp only [same, ends, if_true]
  exact has.count byte

/-- Outside quotes a plain byte goes on with a field, or begins one unless it is a quote. -/
theorem step_plain (has : reader.Has mode field fields records) (unquoted : mode ≠ .quoted)
    (noQuote : byte ≠ quote ∨ mode = .plain) (plain : IsPlain byte) :
    (reader.step byte).Has .plain (field ++ [byte]) fields records := by
  rw [step_eq_stepPlain (has.mode_eq ▸ unquoted) (has.mode_eq ▸ noQuote) (.inr plain.2),
    stepPlain, if_neg plain.1, plain.2]
  exact (has.count byte).push .plain byte

/-- A quote opens a quoted field as the first byte of the field. -/
theorem step_open (has : reader.Has mode field fields records)
    (opens : mode = .between ∨ mode = .fresh) :
    (reader.step quote).Has .quoted field fields records := by
  have same : (reader.count quote).mode = mode := has.mode_eq
  have notEnd : isLineEnd quote = false := rfl
  have counted := has.count quote
  unfold step
  rcases opens with rfl | rfl
  · simp only [same, notEnd, Bool.false_eq_true, if_false, stepFresh, if_true]
    exact ⟨rfl, counted.field_eq, counted.fields_eq, counted.records_eq⟩
  · simp only [same, stepFresh, if_true]
    exact ⟨rfl, counted.field_eq, counted.fields_eq, counted.records_eq⟩

/-- A quote inside quotes may be the closing one. -/
theorem step_close (has : reader.Has .quoted field fields records) :
    (reader.step quote).Has .closing field fields records := by
  have same : (reader.count quote).mode = .quoted := has.mode_eq
  have counted := has.count quote
  unfold step
  simp only [same, if_true]
  exact ⟨rfl, counted.field_eq, counted.fields_eq, counted.records_eq⟩

/-- Inside quotes every byte but a quote stands for itself. -/
theorem step_quoted (has : reader.Has .quoted field fields records) (noQuote : byte ≠ quote) :
    (reader.step byte).Has .quoted (field ++ [byte]) fields records := by
  have same : (reader.count byte).mode = .quoted := has.mode_eq
  unfold step
  simp only [same, if_neg noQuote]
  exact (has.count byte).push .quoted byte

/-- A second quote makes the two of them one quote of the content. -/
theorem step_doubled (has : reader.Has .closing field fields records) :
    (reader.step quote).Has .quoted (field ++ [quote]) fields records := by
  have same : (reader.count quote).mode = .closing := has.mode_eq
  unfold step
  simp only [same, if_true]
  exact (has.count quote).push .quoted quote

/-! ### Runs over fields, lines and tables -/

/-- Run over plain bytes, a reader in a plain field gathers them. -/
theorem run_plain {content : List UInt8} (has : reader.Has .plain field fields records)
    (plain : ∀ byte ∈ content, IsPlain byte) :
    (reader.run content).Has .plain (field ++ content) fields records := by
  induction content generalizing reader field with
  | nil => simpa [run] using has
  | cons byte rest inductionHypothesis =>
    obtain ⟨plainHere, plainRest⟩ := List.forall_mem_cons.1 plain
    have next := has.step_plain (by simp) (.inr rfl) plainHere
    have further := inductionHypothesis next plainRest
    simpa [run] using further

/-- Run over a content with doubled quotes, a reader inside quotes gathers the content. -/
theorem run_doubled (has : reader.Has .quoted field fields records) (content : List UInt8) :
    (reader.run (doubled content)).Has .quoted (field ++ content) fields records := by
  induction content generalizing reader field with
  | nil => simpa [run, doubled] using has
  | cons byte rest inductionHypothesis =>
    have split : doubled (byte :: rest) =
        (if byte = quote then [byte, byte] else [byte]) ++ doubled rest := rfl
    rw [split, run_append]
    by_cases same : byte = quote
    · subst same
      have further := inductionHypothesis has.step_close.step_doubled
      simpa [run] using further
    · have further := inductionHypothesis (has.step_quoted same)
      simpa [same, run] using further

/-- Run over a field as it is written, a reader gathers the content of the field. It is
still between records only if it saw no byte. -/
theorem run_field (has : reader.Has mode [] fields records)
    (opens : mode = .between ∨ mode = .fresh) (one : Field) :
    ∃ after, after ≠ .quoted ∧ (after = .between ↔ mode = .between ∧ one.bytes = []) ∧
      (reader.run one.bytes).Has after one.content fields records := by
  rw [Field.bytes]
  cases quoted : one.quoted with
  | true =>
    have inside := (has.step_open opens).run_doubled one.content
    have whole : (reader.run (quote :: (doubled one.content ++ [quote]))).Has .closing one.content
        fields records := by
      have closed := inside.step_close
      simpa [run] using closed
    exact ⟨.closing, by simp, by simp, by simpa using whole⟩
  | false =>
    have bare := one.bare quoted
    cases content : one.content with
    | nil =>
      refine ⟨mode, ?_, by simp, by simpa [run] using has⟩
      rcases opens with rfl | rfl <;> simp
    | cons byte rest =>
      rw [content] at bare
      obtain ⟨plainHere, plainRest⟩ := List.forall_mem_cons.1 bare.plain
      have noQuote : byte ≠ quote := fun same => bare.head (congrArg some same)
      have unquoted : mode ≠ .quoted := by rcases opens with rfl | rfl <;> simp
      have begun := has.step_plain unquoted (.inl noQuote) plainHere
      have whole := begun.run_plain plainRest
      exact ⟨.plain, by simp, by simp, by simpa [run] using whole⟩

/-- Run over the fields of a record, a reader gathers their contents. It is still between
records only if it saw no byte. -/
theorem run_record (has : reader.Has mode [] fields records)
    (opens : mode = .between ∨ mode = .fresh) (first : Field) (rest : List Field) :
    ∃ after field before, after ≠ .quoted ∧
      (after = .between ↔ mode = .between ∧ recordBytes (first :: rest) = []) ∧
      (reader.run (recordBytes (first :: rest))).Has after field before records ∧
      before ++ [field] = fields ++ (first :: rest).map Field.content := by
  induction rest generalizing reader mode fields first with
  | nil =>
    obtain ⟨after, unquoted, untouched, gathered⟩ := has.run_field opens first
    exact ⟨after, first.content, fields, unquoted, untouched, gathered, rfl⟩
  | cons second others inductionHypothesis =>
    obtain ⟨middle, unquoted, -, gathered⟩ := has.run_field opens first
    have next := gathered.step_comma unquoted
    obtain ⟨after, field, before, unquotedAfter, untouched, whole, contents⟩ :=
      inductionHypothesis next (.inr rfl) second
    have begun : after ≠ .between := by simpa using untouched
    refine ⟨after, field, before, unquotedAfter, by simp [begun, recordBytes], ?_, by
      simpa using contents⟩
    have split : recordBytes (first :: second :: others) =
        first.bytes ++ comma :: recordBytes (second :: others) := rfl
    rw [split, run_append]
    exact whole

/-- Run over the ends of empty lines, a reader between records stays there. -/
theorem run_idle {ends : List UInt8} (has : reader.Has .between field fields records)
    (all : ∀ byte ∈ ends, isLineEnd byte = true) :
    (reader.run ends).Has .between field fields records := by
  induction ends generalizing reader with
  | nil => simpa [run] using has
  | cons byte rest inductionHypothesis =>
    obtain ⟨here, others⟩ := List.forall_mem_cons.1 all
    exact inductionHypothesis (has.step_idle here) others

end Has

end Reader

/-- The ends of lines consist of bytes that end a line. -/
theorem isLineEnd_of_mem {ends : List LineEnd} {byte : UInt8} (member : byte ∈ lineEnds ends) :
    Reader.isLineEnd byte = true := by
  obtain ⟨one, -, inBytes⟩ := List.mem_flatMap.1 member
  cases one <;> simp only [LineEnd.bytes, List.mem_cons, List.not_mem_nil, or_false] at inBytes <;>
    rcases inBytes with rfl | rfl <;> rfl

/-- A line's end has a byte. -/
theorem lineEnds_ne_nil {ends : List LineEnd} (ended : ends ≠ []) : lineEnds ends ≠ [] := by
  cases ends with
  | nil => exact absurd rfl ended
  | cons first rest => cases first <;> simp [lineEnds, LineEnd.bytes]

namespace Reader

variable {reader : Reader} {mode : Mode} {field : List UInt8} {fields : List (List UInt8)}
  {records : List (List (List UInt8))}

/-- The end of the file ends a record that was begun. -/
theorem Has.finish (has : reader.Has mode field fields records) :
    reader.finish.map Record.fields =
      if mode = .between then records else records ++ [fields ++ [field]] := by
  rw [Reader.finish, has.mode_eq]
  split
  · exact has.records_eq
  · exact has.endRecord.records_eq

/-- Run over a line, a reader between records completes the record of the line; if the line
has no end, the end of the file does. -/
theorem Has.run_line (has : reader.Has .between [] [] records) {line : Line}
    (filled : recordBytes line.fields ≠ []) :
    (reader.run line.bytes).finish.map Record.fields = records ++ [line.contents] ∧
      (line.ends ≠ [] →
        (reader.run line.bytes).Has .between [] [] (records ++ [line.contents])) := by
  obtain ⟨first, rest, listed⟩ : ∃ first rest, line.fields = first :: rest := by
    cases listed : line.fields with
    | nil => exact absurd (by simp [listed, recordBytes]) filled
    | cons first rest => exact ⟨first, rest, rfl⟩
  obtain ⟨after, field, before, unquoted, untouched, gathered, contents⟩ :=
    has.run_record (.inl rfl) first rest
  have begun : after ≠ .between := by
    rw [ne_eq, untouched, ← listed]
    simpa using filled
  have whole : before ++ [field] = line.contents := by
    simpa [Line.contents, listed] using contents
  rw [Line.bytes, listed, run_append, ← whole]
  cases ends : lineEnds line.ends with
  | nil =>
    refine ⟨?_, fun ended => absurd ends (lineEnds_ne_nil ended)⟩
    have finished := gathered.finish
    simpa [run, begun] using finished
  | cons byte others =>
    have all : ∀ one ∈ byte :: others, isLineEnd one = true := by
      intro one member
      exact isLineEnd_of_mem (ends ▸ member)
    obtain ⟨here, later⟩ := List.forall_mem_cons.1 all
    have completed := (gathered.step_end unquoted begun here).run_idle later
    exact ⟨completed.finish, fun _ => completed⟩

/-- Run over the lines of a table, a reader completes their records in order. -/
theorem Has.run_lines (has : reader.Has .between [] [] records) {lines : List Line}
    (filled : ∀ line ∈ lines, recordBytes line.fields ≠ [])
    (ended : ∀ line ∈ lines.dropLast, line.ends ≠ []) :
    (reader.run (lines.flatMap Line.bytes)).finish.map Record.fields =
      records ++ lines.map Line.contents := by
  induction lines generalizing reader records with
  | nil => simpa [run] using has.finish
  | cons line rest inductionHypothesis =>
    obtain ⟨filledHere, filledRest⟩ := List.forall_mem_cons.1 filled
    obtain ⟨finished, completed⟩ := has.run_line filledHere
    cases rest with
    | nil => simpa using finished
    | cons second others =>
      obtain ⟨endedHere, endedRest⟩ := List.forall_mem_cons.1 ended
      have further := inductionHypothesis (completed endedHere) filledRest endedRest
      rw [List.flatMap_cons, run_append]
      simpa using further

end Reader

/-! ### Reading a presentation -/

/-- Bytes without a mark at their start are left as they are. -/
theorem afterMark_of_unmarked (reader : Reader) {bytes : List UInt8} (unmarked : ¬ mark <+: bytes) :
    afterMark reader bytes = (reader, bytes) := by
  unfold afterMark
  split
  · next rest => exact absurd ⟨rest, rfl⟩ unmarked
  · rfl

/-- A mark before more bytes is passed over. -/
theorem afterMark_of_marked (reader : Reader) (bytes : List UInt8) :
    afterMark reader (mark ++ bytes) = ({ reader with byte := reader.byte + 3 }, bytes) := rfl

/-- What starts with the end of a line, or is empty, does not complete a mark. -/
theorem not_mark_prefix_append {bytes rest : List UInt8} (unmarked : ¬ mark <+: bytes)
    (ends : ∀ byte ∈ rest.head?, Reader.isLineEnd byte = true) : ¬ mark <+: bytes ++ rest := by
  intro marked
  have long : bytes.length < mark.length := by
    by_contra short
    exact unmarked (List.prefix_of_prefix_length_le marked (List.prefix_append _ _)
      (Nat.le_of_not_lt short))
  -- The mark goes on after the bytes, and none of its own bytes ends a line.
  obtain ⟨after, whole⟩ := marked
  have next : rest.head? = some mark[bytes.length] := by
    have inWhole : (mark ++ after)[bytes.length]? = mark[bytes.length]? :=
      List.getElem?_append_left long
    rw [List.head?_eq_getElem?, ← List.getElem?_eq_getElem long, ← inWhole, whole,
      List.getElem?_append_right (Nat.le_refl _), Nat.sub_self]
  have noEnd : ∀ byte ∈ mark, Reader.isLineEnd byte = false := by simp [mark, Reader.isLineEnd]
  have inMark := noEnd _ (List.getElem_mem long)
  rw [ends _ next] at inMark
  exact Bool.noConfusion inMark

/-- After a line, the end of the line comes first. -/
theorem isLineEnd_of_head {ends : List LineEnd} (ended : ends ≠ []) (rest : List UInt8) :
    ∀ byte ∈ (lineEnds ends ++ rest).head?, Reader.isLineEnd byte = true := by
  intro byte first
  rw [List.head?_append_of_ne_nil _ (lineEnds_ne_nil ended)] at first
  exact isLineEnd_of_mem (List.mem_of_mem_head? first)

namespace Presentation

/-- A table that is written without a mark does not start with one. -/
theorem not_mark_prefix (presentation : Presentation) :
    ¬ mark <+: lineEnds presentation.leading ++
      (presentation.header :: presentation.rows).flatMap Line.bytes := by
  by_cases leading : presentation.leading = []
  · rw [leading, List.flatMap_cons, Line.bytes, List.append_assoc]
    apply not_mark_prefix_append presentation.unmarked
    by_cases last : presentation.rows = []
    · by_cases ended : presentation.header.ends = []
      · simp [last, ended, lineEnds]
      · exact isLineEnd_of_head ended _
    · have ended := presentation.ended presentation.header (by
        rw [List.dropLast_cons_of_ne_nil last]
        exact List.mem_cons_self)
      exact isLineEnd_of_head ended _
  · have unmarked : ¬ mark <+: [] := by decide
    have starts := isLineEnd_of_head leading
      ((presentation.header :: presentation.rows).flatMap Line.bytes)
    have whole := not_mark_prefix_append unmarked starts
    rwa [List.nil_append] at whole

/-- The records of a table are the contents of its lines, however it is written. -/
theorem records_bytes (presentation : Presentation)
    (rowsFilled : ∀ line ∈ presentation.rows, recordBytes line.fields ≠ []) :
    (Table.records presentation.bytes).map Record.fields =
      (presentation.header :: presentation.rows).map Line.contents := by
  have filled : ∀ line ∈ presentation.header :: presentation.rows, recordBytes line.fields ≠ [] :=
    List.forall_mem_cons.2 ⟨presentation.filled, rowsFilled⟩
  have start (byte : Nat) : Reader.Has { Reader.initial with byte } .between [] [] [] :=
    ⟨rfl, rfl, rfl, rfl⟩
  have read (byte : Nat) :
      (Reader.run { Reader.initial with byte } (lineEnds presentation.leading ++
        (presentation.header :: presentation.rows).flatMap Line.bytes)).finish.map Record.fields =
      (presentation.header :: presentation.rows).map Line.contents := by
    have idle : Reader.Has (Reader.run { Reader.initial with byte }
        (lineEnds presentation.leading)) .between [] [] [] :=
      (start byte).run_idle fun _ member => isLineEnd_of_mem member
    rw [Reader.run_append]
    exact idle.run_lines filled presentation.ended
  rw [bytes]
  cases presentation.marked with
  | true =>
    rw [if_pos rfl, List.append_assoc, Table.records, afterMark_of_marked]
    exact read _
  | false =>
    rw [if_neg (by simp), List.nil_append, Table.records,
      afterMark_of_unmarked _ presentation.not_mark_prefix]
    exact read _

end Presentation

/-! ### Texts that a table shows -/

/-- A field shows a text between white space. -/
def Field.Shows (field : Field) (text : List Char) : Prop :=
  ∃ before after, (∀ character ∈ before, isBlank character = true) ∧
    (∀ character ∈ after, isBlank character = true) ∧
    field.content = encode (before ++ text ++ after)

/-- A line shows a text in each of its fields. -/
def Line.Shows (line : Line) (texts : List (List Char)) : Prop :=
  List.Forall₂ Field.Shows line.fields texts

/-- The lines after the header show the texts of some rows. -/
def Presentation.Shows (presentation : Presentation) (rows : List (List (List Char))) : Prop :=
  List.Forall₂ Line.Shows presentation.rows rows

/-- The bytes of a text are read as the text without the white space around it. -/
theorem texts_of_encoded {record : Record} {texts : List (List Char)}
    (encoded : record.fields = texts.map encode) : record.texts = .ok (texts.map trim) := by
  rw [Record.texts, mapM_eq_ok_iff, encoded]
  clear encoded
  generalize record.reportedAt = position
  generalize (0 : Nat) = start
  induction texts generalizing start with
  | nil => exact .nil
  | cons text rest inductionHypothesis =>
    refine .cons ?_ (inductionHypothesis (start + 1))
    simp only [trimBoth_encode, decodeValid_encode, if_true]
    exact congrArg Except.ok (trimBoth_trimBoth (fun _ => isBlank_of_isAsciiBlank) text)

/-- What fields show are the texts that they hold, up to white space around them. -/
theorem exists_of_shows {line : Line} {texts : List (List Char)} (shown : line.Shows texts) :
    ∃ padded : List (List Char), line.contents = padded.map encode ∧
      List.Forall₂ (fun whole text => Solid isBlank text → trim whole = text) padded texts := by
  rw [Line.Shows] at shown
  rw [Line.contents]
  generalize line.fields = fields at shown
  induction shown with
  | nil => exact ⟨[], rfl, .nil⟩
  | @cons field text _ _ here _ inductionHypothesis =>
    obtain ⟨before, after, blankBefore, blankAfter, content⟩ := here
    obtain ⟨padded, contents, trimmed⟩ := inductionHypothesis
    refine ⟨(before ++ text ++ after) :: padded, by simp [content, contents], .cons ?_ trimmed⟩
    exact fun solid => trim_between blankBefore solid blankAfter

end BenchFigures.Table

namespace BenchFigures.ResultFile

open Text Table

/-- A record whose line shows texts that describe a run gives that run. -/
theorem gives_of_shows {record : Record} {line : Line} {texts : List (List Char)} {run : Run Float}
    (written : record.fields = line.contents) (shown : line.Shows texts)
    (described : Describes texts run) : Gives record run := by
  obtain ⟨padded, contents, trimmed⟩ := exists_of_shows shown
  refine ⟨padded.map trim, texts_of_encoded (written.trans contents), ?_⟩
  have same (index : Nat) {text : List Char} (own : texts[index]? = some text)
      (unblank : ∀ character ∈ text, isBlank character = false) :
      (padded.map trim)[index]? = some text := by
    obtain ⟨inside, rfl⟩ := List.getElem?_eq_some_iff.1 own
    have within : index < padded.length := trimmed.length_eq ▸ inside
    rw [List.getElem?_map, List.getElem?_eq_getElem within]
    exact congrArg some (trimmed.get within inside (.of_forall unblank))
  obtain ⟨⟨index, atFirst, readIndex⟩, ⟨elapsed, atSecond, readElapsed⟩,
    ⟨deviation, atThird, readDeviation⟩⟩ := described
  exact ⟨⟨index, same 0 atFirst (Numeral.unblank_of_integer readIndex), readIndex⟩,
    ⟨elapsed, same 1 atSecond (Numeral.unblank_of_float readElapsed), readElapsed⟩,
    ⟨deviation, same 2 atThird (Numeral.unblank_of_float readDeviation), readDeviation⟩⟩

/-- A line that shows a run is not empty: it has at least two commas. -/
theorem recordBytes_ne_nil {line : Line} {texts : List (List Char)} {run : Run Float}
    (shown : line.Shows texts) (described : Describes texts run) :
    recordBytes line.fields ≠ [] := by
  obtain ⟨text, atThird, -⟩ := described.meanDeviation
  obtain ⟨inside, -⟩ := List.getElem?_eq_some_iff.1 atThird
  rw [← shown.length_eq] at inside
  match fields : line.fields with
  | [] => simp [fields] at inside
  | [_] => simp [fields] at inside
  | first :: second :: rest => simp [recordBytes]

/-- Records whose lines show texts that describe runs give these runs. -/
theorem forall₂_gives {records : List Record} {lines : List Line} {rows : List (List (List Char))}
    {runs : List (Run Float)} (written : records.map Record.fields = lines.map Line.contents)
    (shown : List.Forall₂ Line.Shows lines rows) (described : List.Forall₂ Describes rows runs) :
    List.Forall₂ Gives records runs := by
  induction described generalizing records lines with
  | nil =>
    obtain rfl := List.forall₂_nil_right_iff.1 shown
    obtain rfl := List.map_eq_nil_iff.1 written
    exact .nil
  | cons describedHere _ inductionHypothesis =>
    obtain ⟨line, others, shownHere, shownRest, rfl⟩ := List.forall₂_cons_right_iff.1 shown
    obtain ⟨record, rest, rfl, writtenHere, writtenRest⟩ := List.map_eq_cons_iff.1 written
    exact .cons (gives_of_shows writtenHere shownHere describedHere)
      (inductionHypothesis writtenRest shownRest)

/-- However a table is written, reading it gives the runs that its rows describe. -/
theorem holds_bytes {presentation : Presentation} {rows : List (List (List Char))}
    {runs : List (Run Float)} (shown : presentation.Shows rows)
    (described : List.Forall₂ Describes rows runs) : Holds presentation.bytes runs := by
  have rowsFilled : ∀ line ∈ presentation.rows, recordBytes line.fields ≠ [] := by
    intro line member
    obtain ⟨place, inside, rfl⟩ := List.getElem_of_mem member
    have insideRows : place < rows.length := shown.length_eq ▸ inside
    exact recordBytes_ne_nil (shown.get inside insideRows)
      (described.get insideRows (described.length_eq ▸ insideRows))
  have written := presentation.records_bytes rowsFilled
  refine forall₂_gives ?_ shown described
  rw [List.map_drop, written]
  rfl

/-- A result file is read as the runs that its rows describe. Nothing else about the file
matters: not the byte order mark, the header, the empty lines, the ends of lines, the quotes,
the white space around a value or the fields after the third. -/
theorem read_presented {file : Path} {workspace : Workspace} (presentation : Presentation)
    (rows : List (List (List Char))) (runs : List (Run Float)) (filled : rows ≠ [])
    (present : workspace.fileBytes? file = some presentation.bytes)
    (shown : presentation.Shows rows) (described : List.Forall₂ Describes rows runs) :
    ∃ sample, (read file).result workspace = .ok sample ∧ sample.runs = runs := by
  have some : runs ≠ [] := by
    rintro rfl
    exact filled (List.forall₂_nil_right_iff.1 described)
  exact ⟨⟨runs, some⟩,
    (result_read_eq_ok_iff file workspace _).2 ⟨_, present, holds_bytes shown described⟩, rfl⟩

/-- A table with a mark, empty lines, lines of every end and fields of both kinds. Its rows
are "1", "2.5", "0.5" and a note, and then "-2", "1e-3", "inf". -/
def varied : Presentation where
  marked := true
  leading := [.carriageReturn, .lineFeed]
  header :=
    ⟨[⟨encode "run,\n".toList, true, by simp⟩, ⟨encode "ms".toList, false, by decide +kernel⟩],
      [.both, .lineFeed]⟩
  rows :=
    [⟨[⟨encode "1".toList, false, by decide +kernel⟩, ⟨encode " 2.5\r\n".toList, true, by simp⟩,
      ⟨encode "\u00A00.5\u3000".toList, false, by decide +kernel⟩,
      ⟨encode "a \"b\",".toList, true, by simp⟩], [.carriageReturn, .carriageReturn]⟩,
    ⟨[⟨encode "\t-2".toList, false, by decide +kernel⟩,
      ⟨encode "1e-3 ".toList, false, by decide +kernel⟩, ⟨encode "inf".toList, true, by simp⟩], []⟩]
  filled := by decide
  unmarked := by decide
  ended := by decide

/-- The runs of the varied table are read from a file that holds it. -/
theorem read_varied :
    let workspace : Workspace :=
      { tree := FileTree.empty.put ["runs.csv"] (.file (.plain varied.bytes))
        working := [], font := none, events := [] }
    ∃ sample, (read ⟨"runs.csv"⟩).result workspace = .ok sample ∧
      sample.runs = [⟨1, 2.5, 0.5⟩, ⟨-2, 0.001, 1.0 / 0.0⟩] := by
  apply read_presented varied
    [["1".toList, "2.5".toList, "0.5".toList, "a \"b\",".toList],
      ["-2".toList, "1e-3".toList, "inf".toList]]
  · simp
  · decide +kernel
  · have shows (field : Field) (before text after : String)
        (blank : (before.toList ++ after.toList).all isBlank = true)
        (content : field.content = encode (before.toList ++ text.toList ++ after.toList)) :
        field.Shows text.toList := by
      rw [List.all_append, Bool.and_eq_true, List.all_eq_true, List.all_eq_true] at blank
      exact ⟨before.toList, after.toList, blank.1, blank.2, content⟩
    exact .cons
      (.cons (shows _ "" "1" "" (by decide +kernel) (by decide +kernel))
        (.cons (shows _ " " "2.5" "\r\n" (by decide +kernel) (by decide +kernel))
          (.cons (shows _ "\u00A0" "0.5" "\u3000" (by decide +kernel) (by decide +kernel))
            (.cons (shows _ "" "a \"b\"," "" (by decide +kernel) (by decide +kernel)) .nil))))
      (.cons
        (.cons (shows _ "\t" "-2" "" (by decide +kernel) (by decide +kernel))
          (.cons (shows _ "" "1e-3" " " (by decide +kernel) (by decide +kernel))
            (.cons (shows _ "" "inf" "" (by decide +kernel) (by decide +kernel)) .nil))) .nil)
  · refine .cons ⟨⟨_, rfl, ?_⟩, ⟨_, rfl, ?_⟩, ⟨_, rfl, ?_⟩⟩
      (.cons ⟨⟨_, rfl, ?_⟩, ⟨_, rfl, ?_⟩, ⟨_, rfl, ?_⟩⟩ .nil) <;> decide +kernel

end BenchFigures.ResultFile
