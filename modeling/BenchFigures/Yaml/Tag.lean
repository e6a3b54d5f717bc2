import BenchFigures.Json.Grammar
import BenchFigures.Text.Utf8
import BenchFigures.Yaml.Cursor

/-!
# Tags

A tag names the kind of the node after it. It is written in full between angle
brackets, or as a handle and a suffix. Directives say what a handle is short for; two
handles need none. An exclamation mark alone is a tag as well.

Few characters may stand in a tag. A percent sign and two hexadecimal digits give a
byte of any other, so a tag is a text in bytes. It ends before the first byte that is
zero.
-/

namespace BenchFigures.Yaml

/-- A tag in bytes. -/
abbrev Tag := List UInt8

namespace Tag

/-- The tag of a text. -/
def ofText (text : String) : Tag := Text.encode text.toList

/-- A tag up to its first byte that is zero. -/
def cut (bytes : List UInt8) : Tag := bytes.takeWhile (· ≠ 0)

/-- A tag as it is written: a handle, which is empty for a tag in full, and a suffix. -/
structure Written where
  handle : List Char
  suffix : Tag
  deriving DecidableEq, Repr

/-- Whether a character may stand in a tag. Some may only do so between brackets. -/
def mayContain (bracketed : Bool) (character : Char) : Bool :=
  isNameCharacter character || ";/?:@&=+$.!~*'()".toList.contains character ||
    (bracketed && ",[]".toList.contains character)

/-- The byte that a percent sign and two digits stand for. -/
def escapedByte? : List Char → Option (UInt8 × List Char)
  | '%' :: upper :: lower :: rest => do
    return (UInt8.ofNat (16 * (← Json.hexDigit? upper) + (← Json.hexDigit? lower)), rest)
  | _ => none

/-- How many bytes follow the first byte of a character. -/
def followers? (first : UInt8) : Option Nat :=
  if first < 0x80 then some 0
  else if 0xC0 ≤ first && first < 0xE0 then some 1
  else if 0xE0 ≤ first && first < 0xF0 then some 2
  else if 0xF0 ≤ first && first < 0xF8 then some 3
  else none

/-- So many escaped bytes that continue a character. -/
def continuation? : Nat → List Char → Option (List UInt8 × List Char)
  | 0, text => some ([], text)
  | count + 1, text => do
    let (byte, rest) ← escapedByte? text
    if Text.isContinuation byte then
      let (bytes, last) ← continuation? count rest
      return (byte :: bytes, last)
    else none

/-- The bytes of an escaped character. -/
def escapedCharacter? (text : List Char) : Option (List UInt8 × List Char) := do
  let (first, rest) ← escapedByte? text
  let (others, last) ← continuation? (← followers? first) rest
  return (first :: others, last)

/-- The bytes up to the first character that may not stand in a tag. There may be as
many of them as the fuel allows. -/
def bytes? (bracketed : Bool) : Nat → List Char → Option (List UInt8 × List Char)
  | 0, text => some ([], text)
  | fuel + 1, text =>
    match text with
    | [] => some ([], [])
    | character :: rest =>
      if character = '%' then do
        let (bytes, after) ← escapedCharacter? text
        let (others, last) ← bytes? bracketed fuel after
        return (bytes ++ others, last)
      else if mayContain bracketed character then do
        let (others, last) ← bytes? bracketed fuel rest
        return (UInt8.ofNat character.toNat :: others, last)
      else some ([], text)

/-- At least one byte of a tag. -/
def someBytes? (bracketed : Bool) (text : List Char) : Option (Tag × List Char) := do
  let (bytes, rest) ← bytes? bracketed text.length text
  if bytes.isEmpty then none else some (cut bytes, rest)

/-- What may be a handle: an exclamation mark, a name and another mark. The name and
the second mark may be missing. -/
def handle? : List Char → Option (List Char × List Char)
  | '!' :: rest =>
    let name := rest.takeWhile isNameCharacter
    match rest.dropWhile isNameCharacter with
    | '!' :: after => some ('!' :: name ++ ['!'], after)
    | after => some ('!' :: name, after)
  | _ => none

/-- Whether a handle has both marks. -/
def isClosed (handle : List Char) : Bool := 1 < handle.length && handle.getLast? = some '!'

/-- The tag at the front of a text. What looks like a handle but has no second mark
is the beginning of a suffix. -/
def written? (text : List Char) : Option (Written × List Char) :=
  match text with
  | '!' :: '<' :: rest => do
    match ← someBytes? true rest with
    | (tag, '>' :: after) => return (⟨[], tag⟩, after)
    | _ => none
  | _ => do
    let (handle, rest) ← handle? text
    if isClosed handle then
      let (suffix, after) ← someBytes? false rest
      return (⟨handle, suffix⟩, after)
    else
      let (bytes, after) ← bytes? false rest.length rest
      let suffix := cut (Text.encode (handle.drop 1) ++ bytes)
      if suffix.isEmpty then return (⟨[], ofText "!"⟩, after) else return (⟨['!'], suffix⟩, after)

/-- What handles are short for, the first one for a handle counts. -/
abbrev Handles := List (List Char × Tag)

/-- The handles that need no directive. -/
def standardHandles : Handles :=
  [(['!'], ofText "!"), (['!', '!'], ofText "tag:yaml.org,2002:")]

/-- The tag that was written. Its handle must be known. -/
def Written.tag? (handles : Handles) (written : Written) : Option Tag :=
  if written.handle.isEmpty then some written.suffix
  else (handles.lookup written.handle).map (· ++ written.suffix)

end Tag

end BenchFigures.Yaml
