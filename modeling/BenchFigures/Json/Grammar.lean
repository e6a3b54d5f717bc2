import BenchFigures.Json.Value

/-!
# Reading JSON

A text is one value with blanks around it. Readers take a value from the front of
a text and give back the rest. Nested values are read with fuel; twice the length
of the text is enough, as every second step takes a character.
-/

namespace BenchFigures.Json

/-- Whether a character is a blank between tokens. -/
def isBlank (character : Char) : Bool :=
  character = ' ' || character = '\t' || character = '\n' || character = '\r'

/-- A text without the blanks at its front. -/
def skipBlanks (text : List Char) : List Char := text.dropWhile isBlank

/-- Take a given word from the front of a text. -/
def readWord (expected text : List Char) : Option (List Char) :=
  if expected.isPrefixOf text then some (text.drop expected.length) else none

/-- The value of a hexadecimal digit. -/
def hexDigit? (character : Char) : Option Nat :=
  if '0' ≤ character ∧ character ≤ '9' then some (character.toNat - '0'.toNat)
  else if 'a' ≤ character ∧ character ≤ 'f' then some (character.toNat - 'a'.toNat + 10)
  else if 'A' ≤ character ∧ character ≤ 'F' then some (character.toNat - 'A'.toNat + 10)
  else none

/-- The number of four hexadecimal digits. -/
def hexUnit? (a b c d : Char) : Option Nat := do
  let a ← hexDigit? a
  let b ← hexDigit? b
  let c ← hexDigit? c
  let d ← hexDigit? d
  return a * 4096 + b * 256 + c * 16 + d

/-- Whether a number is the first half of a surrogate pair. -/
def isHighSurrogate (unit : Nat) : Bool := 0xD800 ≤ unit && unit ≤ 0xDBFF

/-- Whether a number is the second half of a surrogate pair. -/
def isLowSurrogate (unit : Nat) : Bool := 0xDC00 ≤ unit && unit ≤ 0xDFFF

/-- What a number denotes on its own: half a pair is a gap. -/
def ofUnit (unit : Nat) : Option Char :=
  if isHighSurrogate unit || isLowSurrogate unit then none else some (Char.ofNat unit)

/-- The character after a backslash that stands for another character. -/
def escaped? : Char → Option Char
  | '"' => some '"'
  | '\\' => some '\\'
  | '/' => some '/'
  | 'b' => some '\x08'
  | 'f' => some '\x0C'
  | 'n' => some '\n'
  | 'r' => some '\r'
  | 't' => some '\t'
  | _ => none

/-- The units of a text up to its closing quote: each character or escape gives
one. The halves of surrogate pairs are still apart. -/
def readUnits : List Char → Option (List (Char ⊕ Nat) × List Char)
  | [] => none
  | '"' :: rest => some ([], rest)
  | '\\' :: 'u' :: a :: b :: c :: d :: rest =>
    match hexUnit? a b c d, readUnits rest with
    | some unit, some (following, after) => some (.inr unit :: following, after)
    | _, _ => none
  | '\\' :: letter :: rest =>
    match escaped? letter, readUnits rest with
    | some character, some (following, after) => some (.inl character :: following, after)
    | _, _ => none
  | character :: rest =>
    if character = '\\' ∨ character < ' ' then none
    else
      match readUnits rest with
      | some (following, after) => some (.inl character :: following, after)
      | none => none

/-- Join the halves of surrogate pairs that stand next to each other. -/
def joinPairs : List (Char ⊕ Nat) → Text
  | [] => []
  | .inl character :: rest => some character :: joinPairs rest
  | .inr high :: .inr low :: rest =>
    if isHighSurrogate high && isLowSurrogate low then
      some (Char.ofNat (0x10000 + (high - 0xD800) * 1024 + (low - 0xDC00))) :: joinPairs rest
    else ofUnit high :: joinPairs (.inr low :: rest)
  | .inr unit :: rest => ofUnit unit :: joinPairs rest

/-- A text after its opening quote. -/
def readText (text : List Char) : Option (Text × List Char) := do
  let (found, rest) ← readUnits text
  return (joinPairs found, rest)

/-- The exponent of a number, which may be absent. -/
def readExponent (text : List Char) : Option (Option Exponent × List Char) :=
  match text with
  | mark :: rest =>
    if mark = 'e' ∨ mark = 'E' then
      let (negative, unsigned) := Numeral.splitSign rest
      let digits := unsigned.takeWhile Numeral.isDigit
      if digits.isEmpty then none
      else some (some ⟨negative, digits⟩, unsigned.dropWhile Numeral.isDigit)
    else some (none, text)
  | [] => some (none, [])

/-- The fraction of a number, which may be absent. -/
def readFraction : List Char → Option (Option (List Char) × List Char)
  | '.' :: rest =>
    if (rest.takeWhile Numeral.isDigit).isEmpty then none
    else some (some (rest.takeWhile Numeral.isDigit), rest.dropWhile Numeral.isDigit)
  | rest => some (none, rest)

/-- The digits before the point. Only zero itself starts with a zero. -/
def readWhole (text : List Char) : Option (List Char × List Char) :=
  match text.takeWhile Numeral.isDigit with
  | [] => none
  | first :: others =>
    if first = '0' ∧ others ≠ [] then none
    else some (first :: others, text.dropWhile Numeral.isDigit)

/-- A number. -/
def readNumber (text : List Char) : Option (Number × List Char) := do
  let (negative, unsigned) :=
    match text with
    | '-' :: rest => (true, rest)
    | rest => (false, rest)
  let (whole, afterWhole) ← readWhole unsigned
  let (fraction, afterFraction) ← readFraction afterWhole
  let (exponent, rest) ← readExponent afterFraction
  return (⟨negative, whole, fraction, exponent⟩, rest)

mutual

/-- A value, blanks before it included. -/
def readValue : Nat → List Char → Option (Json × List Char)
  | 0, _ => none
  | fuel + 1, text =>
    match skipBlanks text with
    | '"' :: rest => (readText rest).map fun (found, after) => (.string found, after)
    | '[' :: rest =>
      match skipBlanks rest with
      | ']' :: after => some (.array [], after)
      | _ => (readItems fuel rest).map fun (found, after) => (.array found, after)
    | '\x7b' :: rest =>
      match skipBlanks rest with
      | '\x7d' :: after => some (.object [], after)
      | _ => (readMembers fuel rest).map fun (found, after) => (.object found, after)
    | 't' :: rest => (readWord ['r', 'u', 'e'] rest).map fun after => (.boolean true, after)
    | 'f' :: rest => (readWord ['a', 'l', 's', 'e'] rest).map fun after => (.boolean false, after)
    | 'n' :: rest => (readWord ['u', 'l', 'l'] rest).map fun after => (.null, after)
    | other => (readNumber other).map fun (found, after) => (.number found, after)

/-- The items of an array up to its closing bracket. -/
def readItems : Nat → List Char → Option (List Json × List Char)
  | 0, _ => none
  | fuel + 1, text =>
    match readValue fuel text with
    | none => none
    | some (item, rest) =>
      match skipBlanks rest with
      | ',' :: after => (readItems fuel after).map fun (others, last) => (item :: others, last)
      | ']' :: after => some ([item], after)
      | _ => none

/-- The members of an object up to its closing brace. -/
def readMembers : Nat → List Char → Option (List (Text × Json) × List Char)
  | 0, _ => none
  | fuel + 1, text =>
    match readMember fuel text with
    | none => none
    | some (member, rest) =>
      match skipBlanks rest with
      | ',' :: after => (readMembers fuel after).map fun (others, last) => (member :: others, last)
      | '\x7d' :: after => some ([member], after)
      | _ => none

/-- A key, a colon and a value. -/
def readMember : Nat → List Char → Option ((Text × Json) × List Char)
  | 0, _ => none
  | fuel + 1, text =>
    match skipBlanks text with
    | '"' :: rest =>
      match readText rest with
      | none => none
      | some (key, afterKey) =>
        match skipBlanks afterKey with
        | ':' :: after => (readValue fuel after).map fun (value, last) => ((key, value), last)
        | _ => none
    | _ => none

end

/-- The value that a whole text is. -/
def parse? (text : List Char) : Option Json :=
  match readValue (3 * text.length + 3) text with
  | some (value, rest) => if (skipBlanks rest).isEmpty then some value else none
  | none => none

end BenchFigures.Json
