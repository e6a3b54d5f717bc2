import BenchFigures.Decimal.Shortest

/-!
# Numbers read from text

An integer is digits after an optional sign, within bounds. A floating point
number is a decimal, with an optional fraction and exponent, or one of the words
for infinity and not-a-number; it becomes the nearest binary64 number. Neither
allows blanks or separators. The readers work on lists of characters and give the
first thing that is wrong.
-/

namespace BenchFigures

/-- Why a text is not an integer of a given range. -/
inductive IntegerFault where
  | empty
  | invalidDigit
  | tooLarge
  | tooSmall
  deriving DecidableEq, Repr

/-- Why a text is not a floating point number. -/
inductive FloatFault where
  | empty
  | invalid
  deriving DecidableEq, Repr

namespace Numeral

/-- The value of a decimal digit. -/
def digit? (character : Char) : Option Nat :=
  if '0' ≤ character ∧ character ≤ '9' then some (character.toNat - '0'.toNat) else none

/-- Whether a character is a decimal digit. -/
def isDigit (character : Char) : Bool := (digit? character).isSome

/-- The number that digits denote after those already read. Other characters
count as zero, so that callers need not prove there are none. -/
def valueOf (digits : List Char) (before : Nat) : Nat :=
  digits.foldl (fun value character => 10 * value + (digit? character).getD 0) before

/-- Read digits up to a limit, which is checked after each digit. At one and the
same place a character that is no digit wins over a number grown too large. -/
def magnitudeWithin (limit : Nat) (overflow : IntegerFault) :
    List Char → Nat → Except IntegerFault Nat
  | [], value => .ok value
  | character :: rest, value =>
    match digit? character with
    | none => .error .invalidDigit
    | some digit =>
      if limit < 10 * value + digit then .error overflow
      else magnitudeWithin limit overflow rest (10 * value + digit)

/-- Read a 64-bit signed integer. A sign alone is an invalid digit. -/
def integer (text : List Char) : Except IntegerFault Int :=
  match text with
  | [] => .error .empty
  | ['+'] | ['-'] => .error .invalidDigit
  | '-' :: digits => do
    let size ← magnitudeWithin (Nat.pow 2 63) .tooSmall digits 0
    return -(size : Int)
  | '+' :: digits => do
    let size ← magnitudeWithin (Nat.pow 2 63 - 1) .tooLarge digits 0
    return size
  | digits => do
    let size ← magnitudeWithin (Nat.pow 2 63 - 1) .tooLarge digits 0
    return size

/-- The binary64 number nearest to a decimal. Decimals far beyond the largest
number are infinite and those far below the least one are zero; deciding this
from the digit count keeps the powers of ten small. -/
def nearest (decimal : Decimal) : Float :=
  let top := Decimal.digitCount decimal.significand + decimal.exponent
  if decimal.significand = 0 || top < -400 then 0.0
  else if 400 < top then 1.0 / 0.0
  else if 0 ≤ decimal.exponent then
    Float.ofScientific decimal.significand false decimal.exponent.toNat
  else Float.ofScientific decimal.significand true (-decimal.exponent).toNat

/-- An optional sign in front of a text, and what follows it. -/
def splitSign : List Char → Bool × List Char
  | '-' :: rest => (true, rest)
  | '+' :: rest => (false, rest)
  | rest => (false, rest)

/-- The exponent part of a decimal, which may be absent. -/
def exponent? : List Char → Option Int
  | [] => some 0
  | mark :: rest =>
    if mark = 'e' ∨ mark = 'E' then
      let (negative, digits) := splitSign rest
      if digits.isEmpty || !digits.all isDigit then none
      else
        let size : Int := valueOf digits 0
        some (if negative then -size else size)
    else none

/-- A decimal without a sign: digits, an optional fraction and an optional
exponent. One of the two digit sequences may be empty, but not both. -/
def decimal? (text : List Char) : Option Decimal := do
  let whole := text.takeWhile isDigit
  let afterWhole := text.dropWhile isDigit
  let (fraction, afterFraction) :=
    match afterWhole with
    | '.' :: rest => (rest.takeWhile isDigit, rest.dropWhile isDigit)
    | rest => ([], rest)
  if whole.isEmpty && fraction.isEmpty then none
  else
    let exponent ← exponent? afterFraction
    some ⟨valueOf (whole ++ fraction) 0, exponent - fraction.length⟩

/-- The words for numbers that have no digits, in any case. -/
def named? (text : List Char) : Option Float :=
  match String.ofList (text.map Char.toLower) with
  | "inf" | "infinity" => some (1.0 / 0.0)
  | "nan" => some (0.0 / 0.0)
  | _ => none

/-- Read a floating point number. -/
def float (text : List Char) : Except FloatFault Float :=
  if text.isEmpty then .error .empty
  else
    let (negative, size) := splitSign text
    match (decimal? size).map nearest <|> named? size with
    | some number => .ok (if negative then -number else number)
    | none => .error .invalid

end Numeral

end BenchFigures
