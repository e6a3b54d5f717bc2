import BenchFigures.Chart.Picture

/-!
# Photographic pictures

The lossy format. A pixel becomes a brightness and two differences of colour. Each
of these three planes is cut into blocks of eight by eight, and a block is written
as the amplitudes of the waves it is made of, the longest wave first. The only
loss is that amplitudes are rounded to whole numbers.

An amplitude is written as the number of its bits, by a code, and then these bits.
All codes of a table have one length, which wastes some room and keeps the tables
plain.
-/

namespace BenchFigures.Image.Jpeg

/-! ## Bits -/

/-- Bits packed into bytes: the full bytes, then the bits of the next one. -/
structure Packed where
  bytes : ByteArray
  pending : Nat
  count : Nat

namespace Packed

/-- Pack a bit. After a byte of ones comes a byte of zeros, so that no marker
appears among the bits. -/
def push (packed : Packed) (bit : Bool) : Packed :=
  let pending := packed.pending * 2 + bit.toNat
  if packed.count < 7 then ⟨packed.bytes, pending, packed.count + 1⟩
  else
    let bytes := packed.bytes.push (UInt8.ofNat pending)
    ⟨if pending = 255 then bytes.push 0 else bytes, 0, 0⟩

/-- Pack a number in so many bits, the highest first. -/
def pushNumber (packed : Packed) (number : Nat) : Nat → Packed
  | 0 => packed
  | length + 1 => (packed.push (number.testBit length)).pushNumber number length

/-- The bytes, the last one filled with ones. -/
def finish (packed : Packed) : ByteArray :=
  (Nat.repeat (·.push true) ((8 - packed.count) % 8) packed).bytes

end Packed

/-! ## Waves -/

/-- The brightness of a colour and its differences from blue and red, each around
zero. -/
def parts (color : Color) : List Float :=
  let red := color.red.toNat.toFloat
  let green := color.green.toNat.toFloat
  let blue := color.blue.toNat.toFloat
  [0.299 * red + 0.587 * green + 0.114 * blue - 128.0,
   0.5 * blue - 0.168736 * red - 0.331264 * green,
   0.5 * red - 0.418688 * green - 0.081312 * blue]

/-- The wave of a frequency at a position: eight samples of a cosine, of length one. -/
def waveAt (frequency position : Nat) : Float :=
  let angle := (2 * position + 1).toFloat * frequency.toFloat * 3.141592653589793 / 16.0
  if frequency = 0 then Float.sqrt 0.125 else 0.5 * Float.cos angle

/-- All waves, eight samples for each. -/
def waves : FloatArray :=
  ⟨Array.ofFn fun index : Fin 64 => waveAt (index.val / 8) (index.val % 8)⟩

/-- The amplitudes of the waves in each row of a block, as columns. -/
def transformRows (block : FloatArray) : FloatArray :=
  ⟨Array.ofFn fun index : Fin 64 =>
    let frequency := index.val / 8
    let row := index.val % 8
    (List.range 8).foldl (fun (sum : Float) position =>
      sum + block.data.getD (row * 8 + position) 0.0 *
        waves.data.getD (frequency * 8 + position) 0.0) 0.0⟩

/-- The order of amplitudes: along the diagonals of a block, back and forth. -/
def diagonals : List Nat :=
  (List.range 15).flatMap fun diagonal =>
    let places := (List.range 8).filterMap fun row =>
      if row ≤ diagonal ∧ diagonal < row + 8 then some (row * 8 + (diagonal - row)) else none
    if diagonal % 2 = 0 then places.reverse else places

/-- The nearest whole number, within what ten bits hold. -/
def rounded (amplitude : Float) : Int := max (-1023) (min 1023 amplitude.round.toInt64.toInt)

/-- The amplitudes of a block. In a block of equal samples only the longest wave
has any. -/
def amplitudes (block : FloatArray) : List Int :=
  let first := block.data.getD 0 0.0
  if block.data.all (· == first) then rounded (first * 8.0) :: List.replicate 63 0
  else
    let transformed := transformRows (transformRows block)
    diagonals.map fun place => rounded (transformed.data.getD place 0.0)

/-! ## Codes -/

/-- How many bits an amplitude takes. -/
def bitLength (amplitude : Int) : Nat :=
  if amplitude = 0 then 0 else amplitude.natAbs.log2 + 1

/-- Pack an amplitude whose bit length is known. A negative one counts up from the
number of that length with no bit set. -/
def Packed.pushAmplitude (packed : Packed) (amplitude : Int) : Packed :=
  let length := bitLength amplitude
  let number := if amplitude < 0 then amplitude + (Nat.pow 2 length - 1 : Nat) else amplitude
  packed.pushNumber number.toNat length

/-- The bit lengths that a first amplitude may have; its code is its place here. -/
def firstSymbols : List Nat := List.range 12

/-- What may stand before a later amplitude: how many zeros were skipped, in the
upper half, and its bit length. Before these stand the end of a block and a skip of
sixteen zeros. -/
def laterSymbols : List Nat :=
  [0x00, 0xF0] ++ (List.range 16).flatMap fun zeros =>
    (List.range 10).map fun length => zeros * 16 + (length + 1)

/-- The code of a later amplitude: its place among the symbols. -/
def laterCode (zeros length : Nat) : Nat := 2 + zeros * 10 + (length - 1)

/-- Pack the amplitudes after the first. Zeros are counted and not written. -/
def Packed.pushLater (packed : Packed) (zeros : Nat) : List Int → Packed
  | [] => if zeros = 0 then packed else packed.pushNumber 0 8
  | amplitude :: rest =>
    if amplitude = 0 then packed.pushLater (zeros + 1) rest
    else
      let skipped := Nat.repeat (·.pushNumber 1 8) (zeros / 16) packed
      let coded := skipped.pushNumber (laterCode (zeros % 16) (bitLength amplitude)) 8
      (coded.pushAmplitude amplitude).pushLater 0 rest

/-- Pack a block after a block of the same plane, whose first amplitude is given.
Only the difference of the first amplitudes is written. -/
def Packed.pushBlock (packed : Packed) (earlier : Int) : List Int → Packed
  | [] => packed
  | first :: later =>
    let difference := first - earlier
    let coded := packed.pushNumber (bitLength difference) 4
    (coded.pushAmplitude difference).pushLater 0 later

/-! ## Files -/

/-- A number in two bytes, the most significant first. -/
def short (number : Nat) : List UInt8 := [UInt8.ofNat (number / 256), UInt8.ofNat number]

/-- A part of the file: its marker, its length and its data. -/
def segment (marker : UInt8) (data : List UInt8) : List UInt8 :=
  [0xFF, marker] ++ short (data.length + 2) ++ data

/-- The start of every file. -/
def opening : List UInt8 :=
  [0xFF, 0xD8] ++
    segment 0xE0 [0x4A, 0x46, 0x49, 0x46, 0x00, 0x01, 0x02, 0x00, 0x00, 0x01, 0x00, 0x01, 0, 0]

/-- A table of codes of one length, and what they stand for. -/
def codeTable (number : UInt8) (length : Nat) (symbols : List Nat) : List UInt8 :=
  let counts := (List.range 16).map fun shorter =>
    if shorter + 1 = length then UInt8.ofNat symbols.length else 0
  segment 0xC4 (number :: counts ++ symbols.map UInt8.ofNat)

/-- What stands before the blocks: the step of rounding for every amplitude, the
size and the three planes, and the tables of codes. -/
def header (width height : Nat) : List UInt8 :=
  opening ++
    segment 0xDB (0 :: List.replicate 64 1) ++
    segment 0xC0 ([8] ++ short height ++ short width ++
      [3, 1, 0x11, 0, 2, 0x11, 0, 3, 0x11, 0]) ++
    codeTable 0x00 4 firstSymbols ++ codeTable 0x10 8 laterSymbols ++
    segment 0xDA [3, 1, 0, 2, 0, 3, 0, 0, 63, 0]

/-- The pixels of a picture, row by row. -/
def pixels (picture : Picture) : Array (Array Color) :=
  picture.bands.foldl (fun rows (count, runs) =>
    let row := runs.foldl (fun pushed (length, color) =>
      Nat.repeat (·.push color) length pushed) #[]
    Nat.repeat (·.push row) count rows) #[]

/-- A block of colours. Beyond the edges of the picture its last pixels are repeated. -/
def colorsOf (rows : Array (Array Color)) (column row : Nat) : List Color :=
  (List.range 64).map fun index =>
    let line := rows.getD (min (row * 8 + index / 8) (rows.size - 1)) #[]
    line.getD (min (column * 8 + index % 8) (line.size - 1)) .white

/-- The block of one plane. -/
def planeOf (colors : List Color) (plane : Nat) : FloatArray :=
  ⟨(colors.map fun color => (parts color).getD plane 0.0).toArray⟩

/-- Pack the three planes at a place of the picture. The list holds the first
amplitudes of the blocks before. -/
def pushPlanes (rows : Array (Array Color)) (state : Packed × List Int) (place : Nat × Nat) :
    Packed × List Int :=
  let colors := colorsOf rows place.2 place.1
  let blocks := (List.range 3).map fun plane => amplitudes (planeOf colors plane)
  let packed := (state.2.zip blocks).foldl
    (fun (packed : Packed) (earlier, block) => packed.pushBlock earlier block) state.1
  (packed, blocks.map fun block => block.headD 0)

/-- The greatest width and height that the file can hold. -/
def sizeLimit : Nat := 65535

/-- The file of a picture. -/
def encode (picture : Picture) : ByteArray :=
  let rows := pixels picture
  let places := (List.range ((picture.height + 7) / 8)).flatMap fun row =>
    (List.range ((picture.width + 7) / 8)).map fun column => (row, column)
  let (packed, _) := places.foldl (pushPlanes rows) (⟨ByteArray.empty, 0, 0⟩, [0, 0, 0])
  let start := (header picture.width picture.height).foldl ByteArray.push ByteArray.empty
  ((start ++ packed.finish).push 0xFF).push 0xD9

end BenchFigures.Image.Jpeg
