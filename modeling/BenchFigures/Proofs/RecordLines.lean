import BenchFigures.Proofs.RowFaults
import BenchFigures.Proofs.TableParts

/-!
# Lines of records

A failure names the line on which the reader was when it began to look for the record: right
after the byte that ended the record before. From there the record itself may be some ends
of lines away, those of empty lines and the line feed that belongs to a carriage return. So
the line that is named is the one on which the record starts exactly if none of these bytes
is a line feed.
-/

namespace BenchFigures

/-- The line that a failure names, if one is to blame. -/
def Failure.line? (failure : Failure) : Option Nat :=
  match failure.circumstances, failure.cause with
  | [.field _ line _ _], _ => some line
  | [], .missingField _ line _ => some line
  | _, _ => none

namespace Table

namespace Reader

/-- What a byte does to the line does not depend on the mode. -/
theorem line_step (reader : Reader) (byte : UInt8) :
    (reader.step byte).line = (reader.count byte).line := by
  generalize stepped : reader.step byte = after
  cases stepped ▸ moves_step reader byte with
  | idles _ _ => rfl
  | ends _ _ _ => rfl
  | goesOn _ _ _ _ line => exact line

/-- The line is counted by line feeds. -/
theorem line_run (reader : Reader) (bytes : List UInt8) :
    (reader.run bytes).line = reader.line + bytes.count 0x0A := by
  induction bytes generalizing reader with
  | nil => rfl
  | cons byte rest inductionHypothesis =>
    calc (reader.run (byte :: rest)).line
        = (reader.step byte).line + rest.count 0x0A := inductionHypothesis (reader.step byte)
      _ = (reader.count byte).line + rest.count 0x0A := by rw [line_step]
      _ = reader.line + (byte :: rest).count 0x0A := by
        rw [List.count_cons]
        by_cases feeds : byte = 0x0A
        · simp [count, feeds]
          omega
        · simp [count, feeds]

/-- A byte ends each record of a run but the last: the end of a line, outside quotes. -/
theorem exists_end_of_finish_run {reader : Reader} {bytes : List UInt8} {earlier : List Record}
    {record : Record} {later : List Record}
    (completed : (reader.run bytes).finish = earlier ++ record :: later)
    (more : reader.records.size < earlier.length) :
    ∃ body last rest, bytes = body ++ last :: rest ∧ isLineEnd last = true ∧
      (reader.run body).mode ≠ .between ∧ (reader.run body).mode ≠ .quoted ∧
      ((reader.run body).step last).records.toList = earlier := by
  induction bytes generalizing reader with
  | nil =>
    have lengths := congrArg List.length completed
    rw [run, List.foldl_nil] at lengths
    by_cases idle : reader.mode = .between
    · simp [finish_of_idle idle] at lengths
      omega
    · simp [finish_of_begun idle] at lengths
      omega
  | cons byte rest inductionHypothesis =>
    have onward : ((reader.step byte).run rest).finish = earlier ++ record :: later := completed
    by_cases further : (reader.step byte).records.size < earlier.length
    · obtain ⟨body, last, after, rfl, found⟩ := inductionHypothesis onward further
      exact ⟨byte :: body, last, after, rfl, found⟩
    · -- This byte completes the last of the earlier records.
      have still := records_prefix_finish_run (reader.step byte) rest
      rw [onward] at still
      have whole : (reader.step byte).records.toList.length = earlier.length →
          (reader.step byte).records.toList = earlier := fun lengths =>
        (List.prefix_of_prefix_length_le still (List.prefix_append _ _) lengths.le).eq_of_length
          lengths
      generalize stepped : reader.step byte = after at further whole
      cases stepped ▸ moves_step reader byte with
      | idles _ _ => exact absurd more further
      | ends begun unquoted ends =>
        refine ⟨[], byte, rest, rfl, ends, begun, unquoted, ?_⟩
        refine (congrArg (·.records.toList) stepped).trans (whole ?_)
        simp only [endRecord, count, Array.size_push, Array.length_toList] at further ⊢
        omega
      | goesOn _ _ records _ _ => exact absurd (records ▸ more) further

/-- The next record that is complete started where the reader is looking for it. It is
complete if the file ends after some of the bytes. -/
theorem exists_of_finish_run {reader : Reader} {bytes : List UInt8} {record : Record}
    {later : List Record}
    (completed : (reader.run bytes).finish = reader.records.toList ++ record :: later) :
    record.start = reader.start ∧
      ∃ own, own <+: bytes ∧ (reader.run own).finish = reader.records.toList ++ [record] := by
  induction bytes generalizing reader with
  | nil =>
    rw [run, List.foldl_nil] at completed
    by_cases idle : reader.mode = .between
    · simp [finish_of_idle idle] at completed
    · rw [finish_of_begun idle, List.append_cancel_left_eq, List.cons.injEq] at completed
      exact ⟨completed.1 ▸ rfl, [], List.prefix_rfl, completed.1 ▸ finish_of_begun idle⟩
  | cons byte rest inductionHypothesis =>
    have onward : ((reader.step byte).run rest).finish = reader.records.toList ++ record :: later :=
      completed
    have still := records_prefix_finish_run (reader.step byte) rest
    generalize stepped : reader.step byte = after at onward still
    have goes (own : List UInt8) : reader.run (byte :: own) = after.run own :=
      congrArg (run · own) stepped
    cases stepped ▸ moves_step reader byte with
    | idles _ _ =>
      obtain ⟨starts, own, part, whole⟩ := @inductionHypothesis (reader.count byte) onward
      exact ⟨starts, byte :: own, by simpa using part, goes own ▸ whole⟩
    | ends begun _ _ =>
      rw [onward, records_endRecord] at still
      have first : reader.current = record :=
        (List.cons_prefix_cons.1 ((List.prefix_append_right_inj reader.records.toList).1 still)).1
      exact ⟨first ▸ rfl, [], List.nil_prefix, first ▸ finish_of_begun begun⟩
    | goesOn _ _ records start _ =>
      obtain ⟨starts, own, part, whole⟩ := inductionHypothesis (records ▸ onward)
      rw [records] at whole
      exact ⟨starts.trans start, byte :: own, by simpa using part, goes own ▸ whole⟩

end Reader

/-! ### Where a record stands -/

/-- The line of a file is counted by line feeds; a mark has none. -/
theorem line_readerAfter (bytes : List UInt8) :
    (readerAfter bytes).line = 1 + bytes.count 0x0A := by
  obtain ⟨front, rest, byte, rfl, marks, same⟩ := exists_readerAfter_eq bytes
  have feedless : front.count 0x0A = 0 := by rcases marks with rfl | rfl <;> rfl
  rw [same rest List.prefix_rfl, Reader.line_run, List.count_append, feedless, Nat.zero_add]
  rfl

/-- The bytes of a file end with the byte that ended a record. -/
def EndsRecord (bytes : List UInt8) : Prop :=
  ∃ body last, bytes = body ++ [last] ∧ Reader.isLineEnd last = true ∧
    (readerAfter body).mode ≠ .between ∧ (readerAfter body).mode ≠ .quoted

/-- The end of a record is the end of a line. -/
theorem EndsRecord.endsLine {bytes : List UInt8} (ends : EndsRecord bytes) : EndsLine bytes := by
  obtain ⟨body, last, same, lineEnd, -, unquoted⟩ := ends
  exact ⟨body, last, same, lineEnd, unquoted⟩

/-- The byte that ends a record does so. -/
theorem EndsRecord.exists_readerAfter_eq {bytes : List UInt8} (ends : EndsRecord bytes) :
    ∃ body last, bytes = body ++ [last] ∧
      readerAfter bytes = ((readerAfter body).count last).endRecord := by
  obtain ⟨body, last, rfl, lineEnd, begun, unquoted⟩ := ends
  refine ⟨body, last, rfl, ?_⟩
  have stepped : readerAfter (body ++ [last]) = (readerAfter body).step last :=
    readerAfter_append (by simp [lineEnd])
  rw [stepped]
  generalize moved : (readerAfter body).step last = after
  cases moved ▸ Reader.moves_step (readerAfter body) last with
  | idles idle _ => exact absurd idle begun
  | ends _ _ _ => rfl
  | goesOn inside _ _ _ _ => exact absurd (inside lineEnd) unquoted

/-- After the end of a record the reader looks for the next one. -/
theorem EndsRecord.start_eq {bytes : List UInt8} (ends : EndsRecord bytes) :
    (readerAfter bytes).start.line = (readerAfter bytes).line := by
  obtain ⟨body, last, -, same⟩ := ends.exists_readerAfter_eq
  rw [same]
  rfl

/-- No record ends after fewer bytes with the same records complete. -/
theorem EndsRecord.eq_of_prefix {bytes more : List UInt8} (ends : EndsRecord bytes)
    (endsMore : EndsRecord more) (within : bytes <+: more) (same : records bytes = records more) :
    bytes = more := by
  obtain ⟨rest, rfl⟩ := within
  rcases List.eq_nil_or_concat' rest with rfl | ⟨front, final, rfl⟩
  · simp
  · obtain ⟨body, last, split, ended⟩ := endsMore.exists_readerAfter_eq
    rw [← List.append_assoc] at split
    obtain ⟨rfl, -⟩ := List.append_inj' split rfl
    -- One of the records was completed by the last byte, and all of `bytes` before it.
    have earlier := Reader.records_prefix_run (readerAfter bytes) front
    rw [← ends.endsLine.readerAfter_append, ← ends.endsLine.records_eq, same,
      endsMore.endsLine.records_eq, ended, Reader.records_endRecord] at earlier
    exact absurd earlier.length_le (by simp [Reader.count])

/-- Where a record stands that is not the first one of a file: after the bytes up to the end
of the record before it, and after the ends of lines in the gap between the two. -/
structure Stands (bytes : List UInt8) (earlier : List Record) (record : Record)
    (before gap own : List UInt8) : Prop where
  part : before ++ (gap ++ own) <+: bytes
  /-- The gap starts right after the byte that ended the record before. -/
  ends : EndsRecord before
  earlier_eq : records before = earlier
  lineEnds : ∀ byte ∈ gap, Reader.isLineEnd byte = true
  /-- The record starts right after the gap. -/
  starts : ∃ first rest, own = first :: rest ∧ Reader.isLineEnd first = false
  record_eq : records (before ++ (gap ++ own)) = earlier ++ [record]

/-- The gap before a record is made of all ends of lines that follow the record before it. -/
theorem Stands.gap_eq {rest : List UInt8} {earlier : List Record} {record : Record}
    {before gap own : List UInt8} (stands : Stands (before ++ rest) earlier record before gap own) :
    gap = rest.takeWhile Reader.isLineEnd := by
  obtain ⟨after, whole⟩ := stands.part
  obtain ⟨first, more, rfl, outside⟩ := stands.starts
  rw [List.append_assoc, List.append_cancel_left_eq] at whole
  rw [← whole, List.append_assoc, List.takeWhile_append_of_pos stands.lineEnds]
  simp [outside]

/-- A record stands at one place only. -/
theorem Stands.unique {bytes : List UInt8} {earlier : List Record} {record : Record}
    {before gap own otherBefore otherGap otherOwn : List UInt8}
    (stands : Stands bytes earlier record before gap own)
    (again : Stands bytes earlier record otherBefore otherGap otherOwn) :
    otherBefore = before ∧ otherGap = gap := by
  have part : before <+: bytes := (List.prefix_append _ _).trans stands.part
  have otherPart : otherBefore <+: bytes := (List.prefix_append _ _).trans again.part
  have same : otherBefore = before := by
    have complete := again.earlier_eq.trans stands.earlier_eq.symm
    rcases List.prefix_or_prefix_of_prefix part otherPart with within | within
    · exact (stands.ends.eq_of_prefix again.ends within complete.symm).symm
    · exact again.ends.eq_of_prefix stands.ends within complete
  subst same
  obtain ⟨rest, rfl⟩ := part
  exact ⟨rfl, again.gap_eq.trans stands.gap_eq.symm⟩

/-- A record is placed on the line on which the record before it ended. -/
theorem Stands.line_eq {bytes : List UInt8} {earlier : List Record} {record : Record}
    {before gap own : List UInt8} (stands : Stands bytes earlier record before gap own) :
    record.start.line = 1 + before.count 0x0A := by
  have ends := stands.ends.endsLine
  have whole := stands.record_eq
  rw [records_eq, ends.readerAfter_append, ← stands.earlier_eq, ends.records_eq] at whole
  rw [(Reader.exists_of_finish_run whole).1, stands.ends.start_eq, line_readerAfter]

/-- Every record but the first one stands somewhere. -/
theorem exists_stands {bytes : List UInt8} {earlier : List Record} {record : Record}
    {later : List Record} (some : earlier ≠ [])
    (split : records bytes = earlier ++ record :: later) :
    ∃ before gap own, Stands bytes earlier record before gap own := by
  -- The byte that ended the record before is found by a run from the start of the file,
  obtain ⟨front, tail, byte, rfl, -, same⟩ := exists_readerAfter_eq bytes
  rw [records_eq, same tail List.prefix_rfl] at split
  obtain ⟨body, last, rest, rfl, lineEnd, begun, unquoted, complete⟩ :=
    Reader.exists_end_of_finish_run split (List.length_pos_iff.2 some)
  have bodySame := same body (List.prefix_append _ _)
  have endsSame := same (body ++ [last]) ⟨rest, by simp⟩
  have ends : EndsRecord (front ++ (body ++ [last])) :=
    ⟨front ++ body, last, by simp, lineEnd, bodySame ▸ begun, bodySame ▸ unquoted⟩
  have earlierSame : records (front ++ (body ++ [last])) = earlier := by
    rw [ends.endsLine.records_eq, endsSame, Reader.run_append]
    exact complete
  -- and the end of the record itself by a run from there.
  have whole : ((readerAfter (front ++ (body ++ [last]))).run rest).finish =
      (readerAfter (front ++ (body ++ [last]))).records.toList ++ record :: later := by
    rw [← ends.endsLine.records_eq, earlierSame, endsSame, ← Reader.run_append]
    simpa using split
  obtain ⟨-, seen, part, completed⟩ := Reader.exists_of_finish_run whole
  rw [← ends.endsLine.records_eq, earlierSame] at completed
  refine ⟨front ++ (body ++ [last]), seen.takeWhile Reader.isLineEnd,
    seen.dropWhile Reader.isLineEnd, ?_, ends, earlierSame, ?_, ?_, ?_⟩
  · rw [List.takeWhile_append_dropWhile]
    obtain ⟨after, rfl⟩ := part
    exact ⟨after, by simp⟩
  · intro byte member
    exact List.mem_takeWhile_imp member
  · cases remains : seen.dropWhile Reader.isLineEnd with
    | nil =>
      have idle := (ends.endsLine.has.run_idle (List.dropWhile_eq_nil_iff.1 remains)).finish
      simp [completed, earlierSame] at idle
    | cons first rest =>
      have outside := @List.head_dropWhile_not _ Reader.isLineEnd seen (by simp [remains])
      exact ⟨first, rest, rfl, by simpa [remains] using outside⟩
  · rw [List.takeWhile_append_dropWhile, records_eq, ends.endsLine.readerAfter_append]
    exact completed

end Table

namespace ResultFile

open Text Table

variable {file : Path} {record : Record} {texts : List (List Char)} {index line : Nat}
  {failure : Failure}

/-- A failure for a field names the line of the record. -/
theorem FieldFault.line?_eq (fault : FieldFault file line texts index failure) :
    failure.line? = some line := by
  cases fault <;> rfl

/-- The message of a failure for a field begins with the file and the line. -/
theorem FieldFault.exists_message_eq (fault : FieldFault file line texts index failure) :
    ∃ rest, failure.message = s!"{file.text}:{line}: " ++ rest := by
  have missing : ": missing field " = ": " ++ "missing field " := rfl
  have field : ": field " = ": " ++ "field " := rfl
  have refused (cause : Cause) (text : String) :
      ∃ rest, (cause.failure.during (.field file line index text)).message =
        s!"{file.text}:{line}: " ++ rest := by
    have worded : (Circumstance.field file line index text).message =
      s!"{file.text}:{line}: field {index} " ++ "'" ++ text ++ "' is not a number" := rfl
    refine ⟨s!"field {index} " ++ "'" ++ text ++ "' is not a number" ++ ": " ++
      cause.failure.message, ?_⟩
    rw [Failure.message_during, worded, field]
    simp only [toString, String.append_assoc]
  cases fault with
  | missing _ =>
    have same : ⟨[], .missingField file line index⟩ =
      (Cause.missingField file line index).failure := rfl
    have worded : (Cause.missingField file line index).message =
      s!"{file.text}:{line}: missing field {index}" := rfl
    refine ⟨s!"missing field {index}", ?_⟩
    rw [same, Failure.message_failure, worded, missing]
    simp only [toString, String.append_assoc]
  | notInteger _ _ => exact refused _ _
  | notFloat _ _ _ => exact refused _ _

/-- A failure that names a line is one for a field. -/
theorem RecordFault.of_line? (fault : RecordFault file record failure)
    (named : failure.line? = some line) :
    ∃ texts index, FieldFault file line texts index failure ∧ record.start.line = line := by
  cases fault with
  | unreadable _ _ _ => exact absurd named (by simp [Failure.line?])
  | field _ _ _ fault =>
    obtain rfl : record.start.line = line := by simpa [fault.line?_eq] using named
    exact ⟨_, _, fault, rfl⟩

/-- If a result file is refused for a missing field or for one that is no number, the message
begins with the file and a line, and the first record that is refused is to blame. The line
is short of the one on which this record starts by the line feeds between the record and the
byte that ended the one before. So it is the right one exactly if there are none. -/
theorem line_named {workspace : Workspace} {bytes : List UInt8}
    (present : workspace.fileBytes? file = some bytes)
    (failed : (read file).result workspace = .error failure) (named : failure.line? = some line) :
    (∃ rest, failure.message = s!"{file.text}:{line}: " ++ rest) ∧
    ∃ header earlier record later, Table.records bytes = header :: earlier ++ record :: later ∧
      (∀ other ∈ earlier, ∃ found, Gives other found) ∧ RecordFault file record failure ∧
      (∃ before gap own, Stands bytes (header :: earlier) record before gap own) ∧
      ∀ before gap own, Stands bytes (header :: earlier) record before gap own →
        line + gap.count 0x0A = 1 + (before ++ gap).count 0x0A ∧
        (line = 1 + (before ++ gap).count 0x0A ↔ 0x0A ∉ gap) := by
  rw [result_read present, outcome_eq_error_iff] at failed
  obtain ⟨earlier, record, later, split, given, fault⟩ | ⟨-, rfl⟩ := failed
  · obtain ⟨header, whole⟩ :
        ∃ header, Table.records bytes = header :: (earlier ++ record :: later) := by
      cases all : Table.records bytes with
      | nil => simp [all] at split
      | cons header rest => exact ⟨header, by simpa [all] using split⟩
    obtain ⟨texts, index, inField, placed⟩ := fault.of_line? named
    refine ⟨inField.exists_message_eq, header, earlier, record, later, whole, given, fault,
      exists_stands (by simp) whole, ?_⟩
    intro before gap own stands
    have line_eq := stands.line_eq
    rw [placed] at line_eq
    rw [List.count_append, ← List.count_eq_zero]
    omega
  · simp [Failure.line?] at named

/-- With line feeds only, and one of them in quotes, the line is the right one. -/
theorem line_named_fast :
    let bytes := encode "run\n1,2.5,\"0.5\n\"\n2,fast,0.5\n".toList
    let workspace : Workspace :=
      { tree := FileTree.empty.put ["runs.csv"] (.file (.plain bytes))
        working := [], font := none, events := [] }
    let failure : Failure := ⟨[.field ⟨"runs.csv"⟩ 4 1 "fast"], .notFloat .invalid⟩
    (read ⟨"runs.csv"⟩).result workspace = .error failure ∧ failure.line? = some 4 ∧
      ∃ earlier record before gap own, Stands bytes earlier record before gap own ∧
        RecordFault ⟨"runs.csv"⟩ record failure ∧
        4 + gap.count 0x0A = 1 + (before ++ gap).count 0x0A := by
  intro bytes workspace failure
  have present : workspace.fileBytes? ⟨"runs.csv"⟩ = some bytes := rfl
  have refused : outcome ⟨"runs.csv"⟩ bytes = .error failure := rfl
  have failed := (result_read present).trans refused
  obtain ⟨-, header, earlier, record, -, -, -, fault, ⟨before, gap, own, stands⟩, placed⟩ :=
    line_named present failed rfl
  exact ⟨failed, rfl, header :: earlier, record, before, gap, own, stands, fault,
    (placed before gap own stands).1⟩

/-- A carriage return ends a record, and the line feed after it is not counted: the line that
is named is too low. -/
theorem not_line_always_right :
    ¬ ∀ (file : Path) (workspace : Workspace) (bytes : List UInt8) (failure : Failure) (line : Nat)
      (earlier : List Record) (record : Record) (later : List Record) (before gap own : List UInt8),
      (∀ index < bytes.length, bytes[index]? = some 0x0D → bytes[index + 1]? = some 0x0A) →
      workspace.fileBytes? file = some bytes →
      (read file).result workspace = .error failure → failure.line? = some line →
      Table.records bytes = earlier ++ record :: later → RecordFault file record failure →
      Stands bytes earlier record before gap own →
      line = 1 + (before ++ gap).count 0x0A := by
  intro right
  let bytes := encode "run,elapsed,mean_dev\r\n1,fast,0.1\r\n".toList
  let workspace : Workspace :=
    { tree := FileTree.empty.put ["runs.csv"] (.file (.plain bytes))
      working := [], font := none, events := [] }
  let failure : Failure := ⟨[.field ⟨"runs.csv"⟩ 1 1 "fast"], .notFloat .invalid⟩
  let header : Record := ⟨["run", "elapsed", "mean_dev"].map (encode ·.toList), ⟨0, 1, 0⟩⟩
  let record : Record := ⟨["1", "fast", "0.1"].map (encode ·.toList), ⟨1, 1, 21⟩⟩
  have present : workspace.fileBytes? ⟨"runs.csv"⟩ = some bytes := rfl
  have refused : outcome ⟨"runs.csv"⟩ bytes = .error failure := rfl
  have fault : run ⟨"runs.csv"⟩ record = .error failure := rfl
  have stands : Stands bytes [header] record (encode "run,elapsed,mean_dev\r".toList)
      (encode "\n".toList) (encode "1,fast,0.1".toList) :=
    { part := ⟨encode "\r\n".toList, rfl⟩
      ends := ⟨encode "run,elapsed,mean_dev".toList, 0x0D, rfl, rfl, by decide +kernel,
        by decide +kernel⟩
      earlier_eq := by decide +kernel
      lineEnds := by decide +kernel
      starts := ⟨_, _, rfl, rfl⟩
      record_eq := by decide +kernel }
  have second := right ⟨"runs.csv"⟩ workspace bytes failure 1 [header] record [] _ _ _
    (by decide +kernel) present ((result_read present).trans refused) rfl (by decide +kernel)
    ((run_eq_error_iff _ _ _).1 fault) stands
  exact absurd second (by decide +kernel)

end ResultFile

end BenchFigures
