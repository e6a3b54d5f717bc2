/-!
# Blank characters

Fields of a result file are trimmed of everything that Unicode counts as white
space. Byte positions inside a damaged field count from the first byte that is
not ASCII white space, a smaller set.
-/

namespace BenchFigures.Text

/-- The characters with the Unicode property of white space, as inclusive ranges
of code points. -/
def blankRanges : List (Nat × Nat) :=
  [(0x09, 0x0D), (0x20, 0x20), (0x85, 0x85), (0xA0, 0xA0), (0x1680, 0x1680), (0x2000, 0x200A),
   (0x2028, 0x2029), (0x202F, 0x202F), (0x205F, 0x205F), (0x3000, 0x3000)]

/-- Whether a character is Unicode white space. -/
def isBlank (character : Char) : Bool :=
  blankRanges.any fun (first, last) => first ≤ character.toNat && character.toNat ≤ last

/-- Drop what satisfies a test from both ends of a list. -/
def trimBoth {α : Type} (drop : α → Bool) (items : List α) : List α :=
  ((items.dropWhile drop).reverse.dropWhile drop).reverse

/-- A text without white space at its ends. -/
def trim (text : List Char) : List Char := trimBoth isBlank text

/-- Whether a byte is ASCII white space: space, tab, line feed, form feed or
carriage return. -/
def isBlankByte (byte : UInt8) : Bool :=
  byte = 0x20 || byte = 0x09 || byte = 0x0A || byte = 0x0C || byte = 0x0D

end BenchFigures.Text
