import BenchFigures.Proofs.Presentations

/-!
# Parts of a table

A byte does one of three things to the reader. Between records the end of a line only
counts. Outside quotes the end of a line ends the record that was begun. Every other byte
goes on with a record, or begins one. So records that are complete stay as they are, and
what further bytes add to them depends on what the reader has of the current record and not
on where it is or how many records it has read.

After the end of a line outside quotes the reader has nothing of a record. There a file can
be cut in two: what the second part adds is the same after any part that ends like this.
-/

namespace BenchFigures.Table

namespace Reader

variable {reader : Reader} {mode : Mode} {field : List UInt8} {fields : List (List UInt8)}
  {records : List (List (List UInt8))}

/-! ### What a byte does -/

/-- What a byte makes of a reader. -/
inductive Moves (reader : Reader) (byte : UInt8) : Reader → Prop where
  /-- The end of a line between records belongs to no record. -/
  | idles (idle : reader.mode = .between) (ends : isLineEnd byte = true) :
    Moves reader byte (reader.count byte)
  /-- The end of a line outside quotes ends the record. -/
  | ends (begun : reader.mode ≠ .between) (unquoted : reader.mode ≠ .quoted)
    (ends : isLineEnd byte = true) : Moves reader byte (reader.count byte).endRecord
  /-- Any other byte belongs to a record. -/
  | goesOn {after : Reader} (inside : isLineEnd byte = true → reader.mode = .quoted)
    (begun : after.mode ≠ .between) (records : after.records = reader.records)
    (start : after.start = reader.start) (line : after.line = (reader.count byte).line) :
    Moves reader byte after

/-- Outside quotes a byte that is not the end of a line belongs to a record. -/
theorem moves_stepPlain {reader : Reader} {byte : UInt8} (inLine : isLineEnd byte = false) :
    Moves reader byte ((reader.count byte).stepPlain byte) := by
  unfold stepPlain
  split
  · exact .goesOn (by simp [inLine]) (by simp [endField]) rfl rfl rfl
  · rw [if_neg (by simp [inLine])]
    exact .goesOn (by simp [inLine]) (by simp [push]) rfl rfl rfl

/-- Inside quotes every byte stays with the current field, and so does a quote that opens or
continues a quoted field. -/
theorem exists_step_eq {reader : Reader} {byte : UInt8}
    (special : reader.mode = .quoted ∨ (byte = quote ∧ reader.mode ≠ .plain)) :
    ∃ mode field, mode ≠ .between ∧
      reader.step byte = { reader.count byte with mode, field } := by
  have counted : (reader.count byte).mode = reader.mode := rfl
  unfold step
  simp only [counted]
  cases inMode : reader.mode with
  | between =>
    obtain rfl : byte = quote := by simpa [inMode] using special
    exact ⟨.quoted, reader.field, by simp, rfl⟩
  | fresh =>
    obtain rfl : byte = quote := by simpa [inMode] using special
    exact ⟨.quoted, reader.field, by simp, rfl⟩
  | plain => simp [inMode] at special
  | quoted =>
    by_cases closes : byte = quote
    · exact ⟨.closing, reader.field, by simp, by simp [closes, count]⟩
    · exact ⟨.quoted, reader.field.push byte, by simp, by simp [closes, push, count]⟩
  | closing =>
    obtain rfl : byte = quote := by simpa [inMode] using special
    exact ⟨.quoted, reader.field.push quote, by simp, rfl⟩

/-- Reading a byte is one of the three. -/
theorem moves_step (reader : Reader) (byte : UInt8) : Moves reader byte (reader.step byte) := by
  by_cases special : reader.mode = .quoted ∨ (byte = quote ∧ reader.mode ≠ .plain)
  · obtain ⟨mode, field, begun, same⟩ := exists_step_eq special
    rw [same]
    refine .goesOn (fun ends => special.resolve_right ?_) begun rfl rfl rfl
    rintro ⟨rfl, -⟩
    exact absurd ends (by decide)
  obtain ⟨unquoted, other⟩ := not_or.1 special
  have noQuote : byte ≠ quote ∨ reader.mode = .plain := by tauto
  cases ends : isLineEnd byte with
  | false =>
    rw [step_eq_stepPlain unquoted noQuote (.inr ends)]
    exact moves_stepPlain ends
  | true =>
    by_cases idle : reader.mode = .between
    · have counted : (reader.count byte).mode = .between := idle
      have same : reader.step byte = reader.count byte := by simp [step, counted, ends]
      exact same ▸ .idles idle ends
    · have noComma : byte ≠ comma := by
        rintro rfl
        exact absurd ends (by decide)
      rw [step_eq_stepPlain unquoted noQuote (.inl idle), stepPlain, if_neg noComma, if_pos ends]
      exact .ends idle unquoted ends

/-- Between records a reader has nothing of a record. -/
def Settled (reader : Reader) : Prop :=
  reader.mode = .between → reader.field = #[] ∧ reader.fields = #[]

/-- A byte leaves a reader that has nothing of a record between records. -/
theorem Settled.step (settled : reader.Settled) (byte : UInt8) : (reader.step byte).Settled := by
  generalize stepped : reader.step byte = after
  cases stepped ▸ moves_step reader byte with
  | idles idle _ => exact fun _ => settled idle
  | ends _ _ _ => exact fun _ => ⟨rfl, rfl⟩
  | goesOn _ begun _ _ _ => exact fun idle => absurd idle begun

/-- So do any bytes. -/
theorem Settled.run (settled : reader.Settled) (bytes : List UInt8) :
    (reader.run bytes).Settled := by
  induction bytes generalizing reader with
  | nil => exact settled
  | cons byte rest inductionHypothesis => exact inductionHypothesis (settled.step byte)

/-- The record that a reader is in, as far as it has it. -/
def current (reader : Reader) : Record :=
  ⟨(reader.fields.push reader.field.toList).toList, reader.start⟩

/-- The end of the record completes it. -/
theorem records_endRecord (reader : Reader) :
    reader.endRecord.records.toList = reader.records.toList ++ [reader.current] := by
  simp [endRecord, current]

/-- Between records a file ends with the complete ones. -/
theorem finish_of_idle (idle : reader.mode = .between) :
    reader.finish = reader.records.toList := by
  rw [finish, if_pos idle]

/-- The end of the file completes a record. -/
theorem finish_of_begun (begun : reader.mode ≠ .between) :
    reader.finish = reader.records.toList ++ [reader.current] := by
  rw [finish, if_neg begun, records_endRecord]

/-- A record that is complete stays as it is. -/
theorem records_prefix_step (reader : Reader) (byte : UInt8) :
    reader.records.toList <+: (reader.step byte).records.toList := by
  generalize stepped : reader.step byte = after
  cases stepped ▸ moves_step reader byte with
  | idles _ _ => exact List.prefix_rfl
  | ends _ _ _ => exact records_endRecord (reader.count byte) ▸ List.prefix_append _ _
  | goesOn _ _ records _ _ => exact records ▸ List.prefix_rfl

/-- All complete records stay as they are. -/
theorem records_prefix_run (reader : Reader) (bytes : List UInt8) :
    reader.records.toList <+: (reader.run bytes).records.toList := by
  induction bytes generalizing reader with
  | nil => exact List.prefix_rfl
  | cons byte rest inductionHypothesis =>
    exact (records_prefix_step reader byte).trans (inductionHypothesis (reader.step byte))

/-- Complete records come first in a file. -/
theorem records_prefix_finish (reader : Reader) : reader.records.toList <+: reader.finish := by
  by_cases idle : reader.mode = .between
  · rw [finish_of_idle idle]
  · rw [finish_of_begun idle]
    exact List.prefix_append _ _

/-- Complete records come first however the file goes on. -/
theorem records_prefix_finish_run (reader : Reader) (bytes : List UInt8) :
    reader.records.toList <+: (reader.run bytes).finish :=
  (records_prefix_run reader bytes).trans (records_prefix_finish _)

/-! ### What more bytes add -/

/-- What a byte adds depends on what the reader has of the current record only. -/
theorem exists_has_step (mode : Mode) (field : List UInt8) (fields : List (List UInt8))
    (byte : UInt8) :
    ∃ after nextField nextFields more, ∀ {reader : Reader} {records : List (List (List UInt8))},
      reader.Has mode field fields records →
        (reader.step byte).Has after nextField nextFields (records ++ more) := by
  by_cases inQuotes : mode = .quoted
  · subst inQuotes
    by_cases closes : byte = quote
    · subst closes
      exact ⟨.closing, field, fields, [], fun has => by simpa using has.step_close⟩
    · exact ⟨.quoted, field ++ [byte], fields, [], fun has => by simpa using has.step_quoted closes⟩
  by_cases ends : isLineEnd byte = true
  · by_cases idle : mode = .between
    · subst idle
      exact ⟨.between, field, fields, [], fun has => by simpa using has.step_idle ends⟩
    · exact ⟨.between, [], [], [fields ++ [field]], fun has => has.step_end inQuotes idle ends⟩
  by_cases separates : byte = comma
  · subst separates
    exact ⟨.fresh, [], fields ++ [field], [], fun has => by simpa using has.step_comma inQuotes⟩
  have plain : IsPlain byte := ⟨separates, by simpa using ends⟩
  by_cases noQuote : byte ≠ quote ∨ mode = .plain
  · exact ⟨.plain, field ++ [byte], fields, [], fun has => by
      simpa using has.step_plain inQuotes noQuote plain⟩
  obtain ⟨isQuote, notPlain⟩ := not_or.1 noQuote
  obtain rfl := not_not.1 isQuote
  by_cases opens : mode = .between ∨ mode = .fresh
  · exact ⟨.quoted, field, fields, [], fun has => by simpa using has.step_open opens⟩
  · obtain rfl : mode = .closing := by cases mode <;> simp_all
    exact ⟨.quoted, field ++ [quote], fields, [], fun has => by simpa using has.step_doubled⟩

/-- What bytes add depends on what the reader has of the current record only. -/
theorem exists_has_run (mode : Mode) (field : List UInt8) (fields : List (List UInt8))
    (bytes : List UInt8) :
    ∃ after nextField nextFields more, ∀ {reader : Reader} {records : List (List (List UInt8))},
      reader.Has mode field fields records →
        (reader.run bytes).Has after nextField nextFields (records ++ more) := by
  induction bytes generalizing mode field fields with
  | nil => exact ⟨mode, field, fields, [], fun has => by simpa [run] using has⟩
  | cons byte rest inductionHypothesis =>
    obtain ⟨middle, middleField, middleFields, here, step⟩ := exists_has_step mode field fields byte
    obtain ⟨after, lastField, lastFields, later, run⟩ :=
      inductionHypothesis middle middleField middleFields
    refine ⟨after, lastField, lastFields, here ++ later, fun has => ?_⟩
    rw [← List.append_assoc]
    exact run (step has)

/-- At the end of the file it is the same: the fields of further records depend on what the
reader has of the current record only. -/
theorem exists_finish_run (mode : Mode) (field : List UInt8) (fields : List (List UInt8))
    (bytes : List UInt8) :
    ∃ more, ∀ {reader : Reader} {records : List (List (List UInt8))},
      reader.Has mode field fields records →
        (reader.run bytes).finish.map Record.fields = records ++ more := by
  obtain ⟨after, lastField, lastFields, more, run⟩ := exists_has_run mode field fields bytes
  by_cases idle : after = .between
  · exact ⟨more, fun has => by rw [(run has).finish, if_pos idle]⟩
  · exact ⟨more ++ [lastFields ++ [lastField]], fun has => by
      rw [(run has).finish, if_neg idle, List.append_assoc]⟩

/-- Two readers between records add records with the same fields to those they have. -/
theorem exists_finish_run_of_idle {other : Reader} {others : List (List (List UInt8))}
    (has : reader.Has .between [] [] records) (hasOther : other.Has .between [] [] others)
    (bytes : List UInt8) :
    ∃ more moreOther, (reader.run bytes).finish = reader.records.toList ++ more ∧
      (other.run bytes).finish = other.records.toList ++ moreOther ∧
      more.map Record.fields = moreOther.map Record.fields := by
  obtain ⟨more, same⟩ := records_prefix_finish_run reader bytes
  obtain ⟨moreOther, sameOther⟩ := records_prefix_finish_run other bytes
  obtain ⟨added, adds⟩ := exists_finish_run .between [] [] bytes
  refine ⟨more, moreOther, same.symm, sameOther.symm, ?_⟩
  have here := adds has
  have there := adds hasOther
  rw [← same, List.map_append, has.records_eq] at here
  rw [← sameOther, List.map_append, hasOther.records_eq] at there
  rw [List.append_cancel_left here, List.append_cancel_left there]

end Reader

/-! ### Files in two parts -/

/-- The reader after some bytes at the start of a file. -/
def readerAfter (bytes : List UInt8) : Reader :=
  let (reader, rest) := afterMark .initial bytes
  reader.run rest

/-- The records of a file are those that its reader ends with. -/
theorem records_eq (bytes : List UInt8) : records bytes = (readerAfter bytes).finish := rfl

/-- The reader of a file starts with the bytes after a mark, if there is one. -/
theorem exists_readerAfter_eq (bytes : List UInt8) :
    ∃ front rest byte, bytes = front ++ rest ∧ (front = [] ∨ front = mark) ∧
      ∀ part, part <+: rest →
        readerAfter (front ++ part) = Reader.run { Reader.initial with byte } part := by
  by_cases marked : mark <+: bytes
  · obtain ⟨rest, rfl⟩ := marked
    exact ⟨mark, rest, 3, rfl, .inr rfl, fun _ _ => rfl⟩
  · refine ⟨[], bytes, 0, rfl, .inl rfl, fun part within => ?_⟩
    have unmarked : ¬ mark <+: part := fun still => marked (still.trans within)
    rw [List.nil_append, readerAfter, afterMark_of_unmarked _ unmarked]
    rfl

/-- Between records the reader of a file has nothing of a record. -/
theorem settled_readerAfter (bytes : List UInt8) : (readerAfter bytes).Settled := by
  obtain ⟨front, rest, byte, rfl, -, same⟩ := exists_readerAfter_eq bytes
  have start : Reader.Settled { Reader.initial with byte } := fun _ => ⟨rfl, rfl⟩
  exact same rest List.prefix_rfl ▸ start.run rest

/-- What follows the end of a line is read on, and a mark is no part of it. -/
theorem readerAfter_append {bytes rest : List UInt8}
    (ends : ∀ byte ∈ rest.head?, Reader.isLineEnd byte = true) :
    readerAfter (bytes ++ rest) = (readerAfter bytes).run rest := by
  by_cases marked : mark <+: bytes
  · obtain ⟨after, rfl⟩ := marked
    rw [List.append_assoc, readerAfter, readerAfter, afterMark_of_marked, afterMark_of_marked]
    exact Reader.run_append _ _ _
  · have unmarked := not_mark_prefix_append marked ends
    rw [readerAfter, readerAfter, afterMark_of_unmarked _ marked, afterMark_of_unmarked _ unmarked]
    exact Reader.run_append _ _ _

/-- The bytes of a file end with the end of a line, outside quotes. -/
def EndsLine (bytes : List UInt8) : Prop :=
  ∃ body last, bytes = body ++ [last] ∧ Reader.isLineEnd last = true ∧
    (readerAfter body).mode ≠ .quoted

namespace EndsLine

variable {front : List UInt8}

/-- After the end of a line the reader is between records and has nothing of a record. -/
theorem has (ends : EndsLine front) :
    (readerAfter front).Has .between [] [] ((records front).map Record.fields) := by
  obtain ⟨body, last, rfl, lineEnd, unquoted⟩ := ends
  have stepped : readerAfter (body ++ [last]) = (readerAfter body).step last :=
    readerAfter_append (by simp [lineEnd])
  have idle : (readerAfter (body ++ [last])).mode = .between := by
    rw [stepped]
    generalize moved : (readerAfter body).step last = after
    cases moved ▸ Reader.moves_step (readerAfter body) last with
    | idles idle _ => exact idle
    | ends _ _ _ => rfl
    | goesOn inside _ _ _ _ => exact absurd (inside lineEnd) unquoted
  obtain ⟨noField, noFields⟩ := settled_readerAfter _ idle
  exact ⟨idle, by rw [noField], by rw [noFields], by
    rw [records_eq, Reader.finish_of_idle idle]⟩

/-- All records are complete at the end of a line. -/
theorem records_eq (ends : EndsLine front) :
    records front = (readerAfter front).records.toList := by
  rw [Table.records_eq, Reader.finish_of_idle ends.has.mode_eq]

/-- What follows the end of a line is read on. -/
theorem readerAfter_append (ends : EndsLine front) (back : List UInt8) :
    readerAfter (front ++ back) = (readerAfter front).run back := by
  obtain ⟨body, last, rfl, lineEnd, -⟩ := ends
  have whole : readerAfter (body ++ last :: back) = (readerAfter body).run (last :: back) :=
    Table.readerAfter_append (by simp [lineEnd])
  have part : readerAfter (body ++ [last]) = (readerAfter body).run [last] :=
    Table.readerAfter_append (by simp [lineEnd])
  rw [List.append_assoc, List.singleton_append, whole, part, ← Reader.run_append]
  rfl

/-- After the ends of two lines the same bytes add records with the same fields. -/
theorem exists_records_append {other : List UInt8} (ends : EndsLine front)
    (endsOther : EndsLine other) (back : List UInt8) :
    ∃ more moreOther, records (front ++ back) = records front ++ more ∧
      records (other ++ back) = records other ++ moreOther ∧
      more.map Record.fields = moreOther.map Record.fields := by
  obtain ⟨more, moreOther, same, sameOther, alike⟩ :=
    Reader.exists_finish_run_of_idle ends.has endsOther.has back
  refine ⟨more, moreOther, ?_, ?_, alike⟩
  · rw [Table.records_eq, ends.readerAfter_append, same, ends.records_eq]
  · rw [Table.records_eq, endsOther.readerAfter_append, sameOther, endsOther.records_eq]

end EndsLine

end BenchFigures.Table
