import BenchFigures.Chart.Picture

/-!
# Bitmap files

The plain format: a header of 54 bytes, then the rows from bottom to top. A pixel
is its blue, green and red byte, and zeros fill each row to a multiple of four
bytes.
-/

namespace BenchFigures.Image.Bitmap

/-- A number in so many bytes, least significant byte first. -/
def lowFirst : Nat → Nat → List UInt8
  | 0, _ => []
  | count + 1, number => UInt8.ofNat number :: lowFirst count (number / 256)

/-- The bytes of a run of pixels. -/
def pushRun (bytes : ByteArray) (run : Nat × Color) : ByteArray :=
  Nat.repeat (fun pushed => ((pushed.push run.2.blue).push run.2.green).push run.2.red) run.1 bytes

/-- How many zeros fill a row of so many pixels. -/
def filling (width : Nat) : Nat := (4 - width * 3 % 4) % 4

/-- All rows, the lowest first. -/
def rows (picture : Picture) : ByteArray :=
  picture.bands.foldr (fun (count, runs) bytes =>
    let pixels := runs.foldl pushRun ByteArray.empty
    let row := Nat.repeat (·.push 0) (filling picture.width) pixels
    Nat.repeat (· ++ row) count bytes) ByteArray.empty

/-- The file of a picture. -/
def encode (picture : Picture) : ByteArray :=
  let pixels := rows picture
  let header := [0x42, 0x4D] ++ lowFirst 4 (54 + pixels.size) ++ lowFirst 4 0 ++ lowFirst 4 54 ++
    lowFirst 4 40 ++ lowFirst 4 picture.width ++ lowFirst 4 picture.height ++ lowFirst 2 1 ++
    lowFirst 2 24 ++ lowFirst 4 0 ++ lowFirst 4 pixels.size ++ lowFirst 16 0
  header.foldl ByteArray.push ByteArray.empty ++ pixels

end BenchFigures.Image.Bitmap
