/-!
# Text in bytes

Well-formed byte sequences of one to four bytes, each standing for one character.
The table below is the one of well-formed sequences: overlong forms, surrogates
and numbers beyond the last code point are excluded by narrowing the range of the
second byte. Reading stops at the first sequence that is not well formed.
-/

namespace BenchFigures.Text

/-- Whether a byte continues a sequence. -/
def isContinuation (byte : UInt8) : Bool := 0x80 ≤ byte && byte ≤ 0xBF

/-- The lowest and highest second byte of a sequence of three or four bytes, by
its first byte. -/
def secondByteRange (first : UInt8) : UInt8 × UInt8 :=
  if first = 0xE0 then (0xA0, 0xBF)
  else if first = 0xED then (0x80, 0x9F)
  else if first = 0xF0 then (0x90, 0xBF)
  else if first = 0xF4 then (0x80, 0x8F)
  else (0x80, 0xBF)

/-- Whether a byte may stand second after a first byte. -/
def mayFollow (first second : UInt8) : Bool :=
  let (lowest, highest) := secondByteRange first
  lowest ≤ second && second ≤ highest

/-- The six payload bits of a continuation byte. -/
def payload (byte : UInt8) : Nat := byte.toNat % 64

/-- The first character of a byte list and how many bytes it takes. -/
def firstCharacter? : List UInt8 → Option (Char × Nat)
  | [] => none
  | a :: rest =>
    if a < 0x80 then some (Char.ofNat a.toNat, 1)
    else if 0xC2 ≤ a && a ≤ 0xDF then
      match rest with
      | b :: _ =>
        if isContinuation b then some (Char.ofNat (a.toNat % 32 * 64 + payload b), 2) else none
      | [] => none
    else if 0xE0 ≤ a && a ≤ 0xEF then
      match rest with
      | b :: c :: _ =>
        if mayFollow a b && isContinuation c then
          some (Char.ofNat (a.toNat % 16 * 4096 + payload b * 64 + payload c), 3)
        else none
      | _ => none
    else if 0xF0 ≤ a && a ≤ 0xF4 then
      match rest with
      | b :: c :: d :: _ =>
        if mayFollow a b && isContinuation c && isContinuation d then
          let upper := a.toNat % 8 * 262144 + payload b * 4096
          some (Char.ofNat (upper + payload c * 64 + payload d), 4)
        else none
      | _ => none
    else none

/-- Read characters until the bytes end or are not well formed. The bytes left
to skip belong to a character already read. -/
def decodeFrom : List UInt8 → Nat → List Char × Nat
  | [], _ => ([], 0)
  | _ :: rest, skip + 1 =>
    let (characters, length) := decodeFrom rest skip
    (characters, length + 1)
  | byte :: rest, 0 =>
    match firstCharacter? (byte :: rest) with
    | none => ([], 0)
    | some (character, size) =>
      let (characters, length) := decodeFrom rest (size - 1)
      (character :: characters, length + 1)

/-- The characters of the longest well-formed beginning, and its length in bytes. -/
def decodeValid (bytes : List UInt8) : List Char × Nat := decodeFrom bytes 0

/-- The characters of a byte list that is well formed throughout. -/
def decode? (bytes : List UInt8) : Option (List Char) :=
  let (characters, length) := decodeValid bytes
  if length = bytes.length then some characters else none

/-- The bytes of one character. -/
def encodeCharacter (character : Char) : List UInt8 :=
  let code := character.toNat
  if code < 0x80 then [UInt8.ofNat code]
  else if code < 0x800 then
    [UInt8.ofNat (0xC0 + code / 64), UInt8.ofNat (0x80 + code % 64)]
  else if code < 0x10000 then
    [UInt8.ofNat (0xE0 + code / 4096), UInt8.ofNat (0x80 + code / 64 % 64),
     UInt8.ofNat (0x80 + code % 64)]
  else
    [UInt8.ofNat (0xF0 + code / 262144), UInt8.ofNat (0x80 + code / 4096 % 64),
     UInt8.ofNat (0x80 + code / 64 % 64), UInt8.ofNat (0x80 + code % 64)]

/-- The bytes of a text. -/
def encode (text : List Char) : List UInt8 := text.flatMap encodeCharacter

end BenchFigures.Text
