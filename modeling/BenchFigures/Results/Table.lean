import BenchFigures.Failure
import BenchFigures.Text.Blank
import BenchFigures.Text.Utf8

/-!
# Tables of comma separated values

A result file is read byte by byte by a machine with five modes. A record ends at
a line feed or a carriage return; both are skipped between records, so empty lines
do not count, and the line feed after a carriage return belongs to no record. A
quote opens a quoted field only as its first byte. Inside, a doubled quote is a
quote and everything else stands for itself; what follows the closing quote is
appended as it is. The end of the file ends the record.

Running the machine over one part of a file and then over the next is running it
over both.
-/

namespace BenchFigures.Table

/-- Where the machine is within a record. -/
inductive Mode where
  /-- No byte of a record has been seen. -/
  | between
  /-- At the start of a field after a comma. -/
  | fresh
  /-- Inside a field that is not quoted, or after its closing quote. -/
  | plain
  /-- Inside quotes. -/
  | quoted
  /-- Right after a quote inside quotes. -/
  | closing
  deriving DecidableEq, Repr

/-- A record: its fields and where its reading started. -/
structure Record where
  fields : List (List UInt8)
  start : RecordPosition
  deriving DecidableEq, Repr

/-- The machine: its mode, what it has of the current record, the records before
and where it is. -/
structure Reader where
  mode : Mode
  /-- The bytes of the current field. -/
  field : Array UInt8
  /-- The fields before it. -/
  fields : Array (List UInt8)
  /-- The records before. -/
  records : Array Record
  /-- Where the reading of the current record started. -/
  start : RecordPosition
  /-- One more than the line feeds seen. -/
  line : Nat
  /-- The bytes seen. -/
  byte : Nat

namespace Reader

/-- The machine before the first byte. -/
def initial : Reader :=
  { mode := .between, field := #[], fields := #[], records := #[], start := ⟨0, 1, 0⟩, line := 1
    byte := 0 }

/-- Append a byte to the current field. -/
def push (reader : Reader) (mode : Mode) (byte : UInt8) : Reader :=
  { reader with mode, field := reader.field.push byte }

/-- End the current field and expect another. -/
def endField (reader : Reader) : Reader :=
  { reader with mode := .fresh, field := #[], fields := reader.fields.push reader.field.toList }

/-- End the current record. The next one starts where the machine is now. -/
def endRecord (reader : Reader) : Reader :=
  let record : Record := ⟨(reader.fields.push reader.field.toList).toList, reader.start⟩
  let start : RecordPosition := ⟨reader.records.size + 1, reader.line, reader.byte⟩
  { reader with
    mode := .between, field := #[], fields := #[], records := reader.records.push record, start }

/-- Whether a byte ends a line. -/
def isLineEnd (byte : UInt8) : Bool := byte = 0x0A || byte = 0x0D

/-- The comma between fields. -/
def comma : UInt8 := 0x2C

/-- The quote around fields. -/
def quote : UInt8 := 0x22

/-- Take note of where the machine is after a byte. -/
def count (reader : Reader) (byte : UInt8) : Reader :=
  { reader with
    line := if byte = 0x0A then reader.line + 1 else reader.line
    byte := reader.byte + 1 }

/-- What a byte does outside quotes. -/
def stepPlain (reader : Reader) (byte : UInt8) : Reader :=
  if byte = comma then reader.endField
  else if isLineEnd byte then reader.endRecord
  else reader.push .plain byte

/-- What a byte does at the start of a field. -/
def stepFresh (reader : Reader) (byte : UInt8) : Reader :=
  if byte = quote then { reader with mode := .quoted } else reader.stepPlain byte

/-- Read one byte. -/
def step (before : Reader) (byte : UInt8) : Reader :=
  let reader := before.count byte
  match reader.mode with
  | .between => if isLineEnd byte then reader else reader.stepFresh byte
  | .fresh => reader.stepFresh byte
  | .plain => reader.stepPlain byte
  | .quoted => if byte = quote then { reader with mode := .closing } else reader.push .quoted byte
  | .closing => if byte = quote then reader.push .quoted byte else reader.stepPlain byte

/-- Read some bytes. -/
def run (reader : Reader) (bytes : List UInt8) : Reader := bytes.foldl step reader

/-- End the file: a record that was begun is complete. -/
def finish (reader : Reader) : List Record :=
  (if reader.mode = .between then reader.records else reader.endRecord.records).toList

/-- Reading two parts one after the other is reading them together. -/
theorem run_append (reader : Reader) (first second : List UInt8) :
    reader.run (first ++ second) = (reader.run first).run second := by
  simp [run]

end Reader

/-- Pass over a byte order mark at the start. Its bytes count, but it is part of
no field. -/
def afterMark (reader : Reader) : List UInt8 → Reader × List UInt8
  | 0xEF :: 0xBB :: 0xBF :: rest => ({ reader with byte := reader.byte + 3 }, rest)
  | bytes => (reader, bytes)

/-- Every record of a file, the header included. -/
def records (bytes : List UInt8) : List Record :=
  let (reader, rest) := afterMark .initial bytes
  (reader.run rest).finish

/-- The position that a damaged record is reported at: where its reading started.
The header is read together with the first record after it. -/
def Record.reportedAt (record : Record) : RecordPosition :=
  if record.start.record ≤ 1 then ⟨0, 1, 0⟩ else record.start

/-- The texts of a record's fields, without white space at their ends. A field
that is not text is reported with the count of its valid bytes; ASCII white space
around it does not count. -/
def Record.texts (record : Record) : Except TableFault (List (List Char)) :=
  (record.fields.zipIdx).mapM fun (field, index) =>
    let bytes := Text.trimBoth Text.isBlankByte field
    let (characters, valid) := Text.decodeValid bytes
    if valid = bytes.length then .ok (Text.trim characters)
    else .error (.notText record.reportedAt index valid)

end BenchFigures.Table
