/-!
# A place in a YAML text

YAML gives meaning to columns and lines, so what is left of a text is kept together
with where it starts. Line ends of several kinds are read as one line feed; two
Unicode separators end a line and stay as they are.
-/

namespace BenchFigures.Yaml

/-- Whether a character may stand in a text at all. -/
def isAllowed (character : Char) : Bool :=
  let code := character.toNat
  code = 0x09 || code = 0x0A || code = 0x0D || (0x20 ≤ code && code ≤ 0x7E) || code = 0x85 ||
    (0xA0 ≤ code && code ≤ 0xFFFD) || 0x10000 ≤ code

/-- Whether a character ends a line. -/
def isBreak (character : Char) : Bool :=
  character = '\n' || character = '\r' || character = '\u0085' || character = '\u2028' ||
    character = '\u2029'

/-- Whether a character is a space or a tab. -/
def isBlank (character : Char) : Bool := character = ' ' || character = '\t'

/-- Whether a text is at its end, at a blank or at the end of a line. -/
def endsWord : List Char → Bool
  | [] => true
  | character :: _ => isBlank character || isBreak character

/-- Whether a text is at its end or at the end of a line. -/
def endsLine : List Char → Bool
  | [] => true
  | character :: _ => isBreak character

/-- Whether a character may stand in the name of an anchor, a handle or a directive. -/
def isNameCharacter (character : Char) : Bool :=
  character.isAlphanum || character = '_' || character = '-'

/-- How many bytes a text takes. -/
def byteCount (text : List Char) : Nat :=
  text.foldl (fun total character => total + character.utf8Size) 0

/-- What is left of a text, and where it starts: the line, the column in characters
and the number of bytes before it. -/
structure Cursor where
  rest : List Char
  line : Nat
  column : Nat
  index : Nat

namespace Cursor

/-- The start of a text. -/
def start (text : List Char) : Cursor := ⟨text, 0, 0, 0⟩

/-- Pass over so many characters of a line. -/
def skip (cursor : Cursor) (count : Nat) : Cursor :=
  ⟨cursor.rest.drop count, cursor.line, cursor.column + count,
    cursor.index + byteCount (cursor.rest.take count)⟩

/-- Pass over the characters of a line that satisfy a test. -/
def skipWhile (cursor : Cursor) (test : Char → Bool) : Cursor :=
  cursor.skip (cursor.rest.takeWhile test).length

/-- Pass to a later place of the same line. -/
def moveTo (cursor : Cursor) (rest : List Char) : Cursor :=
  cursor.skip (cursor.rest.length - rest.length)

/-- The start of the next line, `count` characters on. -/
def nextLine (cursor : Cursor) (count : Nat) : Cursor :=
  ⟨cursor.rest.drop count, cursor.line + 1, 0,
    cursor.index + byteCount (cursor.rest.take count)⟩

/-- Pass over the end of a line: what it is read as, and the start of the next. -/
def breakLine? (cursor : Cursor) : Option (Char × Cursor) :=
  match cursor.rest with
  | '\r' :: '\n' :: _ => some ('\n', cursor.nextLine 2)
  | character :: _ =>
    if character = '\u2028' ∨ character = '\u2029' then some (character, cursor.nextLine 1)
    else if isBreak character then some ('\n', cursor.nextLine 1)
    else none
  | [] => none

/-- Whether three equal characters stand alone at the start of a line. -/
def isAtTriple (cursor : Cursor) (character : Char) : Bool :=
  cursor.column = 0 && [character, character, character].isPrefixOf cursor.rest &&
    endsWord (cursor.rest.drop 3)

/-- Whether a line starts here that separates documents. -/
def isAtSeparator (cursor : Cursor) : Bool := cursor.isAtTriple '-' || cursor.isAtTriple '.'

end Cursor

end BenchFigures.Yaml
