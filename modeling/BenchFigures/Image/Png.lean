import BenchFigures.Chart.Picture

/-!
# Portable network graphics

The lossless format of charts: a signature, then chunks, each with its length and
a checksum. Pixels are kept row by row, eight bits for each colour part, in a
stream of stored blocks; nothing is compressed.
-/

namespace BenchFigures.Image.Png

/-- A 32-bit number, most significant byte first. -/
def word (number : UInt32) : List UInt8 :=
  [(number >>> 24).toUInt8, (number >>> 16).toUInt8, (number >>> 8).toUInt8, number.toUInt8]

/-- A 16-bit number, least significant byte first. -/
def shortLow (number : Nat) : List UInt8 := [UInt8.ofNat number, UInt8.ofNat (number / 256)]

/-- One entry of the checksum table: eight steps of polynomial division. -/
def checksumEntry (index : Nat) : UInt32 :=
  Nat.repeat (fun remainder =>
    if remainder &&& 1 = 1 then (remainder >>> 1) ^^^ 0xEDB88320 else remainder >>> 1) 8
    (UInt32.ofNat index)

/-- The checksum table for all bytes. -/
def checksumTable : Array UInt32 := Array.ofFn fun index : Fin 256 => checksumEntry index

/-- The checksum of a chunk's type and data. -/
def checksum (bytes : ByteArray) : UInt32 :=
  let remainder : UInt32 := bytes.foldl (fun (remainder : UInt32) byte =>
    (remainder >>> 8) ^^^ checksumTable.getD ((remainder ^^^ byte.toUInt32) &&& 0xFF).toNat 0)
    0xFFFFFFFF
  remainder ^^^ 0xFFFFFFFF

/-- Bytes after others. -/
def append (bytes : ByteArray) (more : List UInt8) : ByteArray := more.foldl ByteArray.push bytes

/-- A chunk: length, four letters, data and checksum. -/
def chunk (letters : String) (data : ByteArray) : ByteArray :=
  let body := letters.toUTF8 ++ data
  append (append ByteArray.empty (word (UInt32.ofNat data.size)) ++ body) (word (checksum body))

/-- The bytes of a run of pixels. -/
def pushRun (bytes : ByteArray) (run : Nat × Color) : ByteArray :=
  Nat.repeat (fun pushed => ((pushed.push run.2.red).push run.2.green).push run.2.blue) run.1 bytes

/-- All rows, each after the byte that says it is not filtered. -/
def rows (picture : Picture) : ByteArray :=
  picture.bands.foldl (fun bytes (count, runs) =>
    let row := runs.foldl pushRun (ByteArray.empty.push 0)
    Nat.repeat (· ++ row) count bytes) ByteArray.empty

/-- The check value of the uncompressed stream: two running sums. -/
def streamCheck (bytes : ByteArray) : UInt32 :=
  let (low, high) := bytes.foldl (fun (low, high) byte =>
    let next := (low + byte.toNat) % 65521
    (next, (high + next) % 65521)) (1, 0)
  UInt32.ofNat (high * 65536 + low)

/-- Stored blocks of at most 65535 bytes; `count` of them are enough. -/
def storedBlocks (bytes : ByteArray) : Nat → Nat → ByteArray → ByteArray
  | 0, _, written => written
  | count + 1, start, written =>
    let finish := min (start + 65535) bytes.size
    let length := finish - start
    let last : UInt8 := if finish = bytes.size then 1 else 0
    let header := last :: shortLow length ++ shortLow (65535 - length)
    let block := append written header ++ bytes.extract start finish
    if finish = bytes.size then block else storedBlocks bytes count finish block

/-- The stream that holds the pixels. -/
def stream (bytes : ByteArray) : ByteArray :=
  let start := append ByteArray.empty [0x78, 0x01]
  append (storedBlocks bytes (bytes.size / 65535 + 1) 0 start) (word (streamCheck bytes))

/-- The file of a picture. -/
def encode (picture : Picture) : ByteArray :=
  let signature := append ByteArray.empty [0x89, 0x50, 0x4E, 0x47, 0x0D, 0x0A, 0x1A, 0x0A]
  let header := append ByteArray.empty
    (word (UInt32.ofNat picture.width) ++ word (UInt32.ofNat picture.height) ++ [8, 2, 0, 0, 0])
  signature ++ chunk "IHDR" header ++ chunk "IDAT" (stream (rows picture)) ++
    chunk "IEND" ByteArray.empty

end BenchFigures.Image.Png
