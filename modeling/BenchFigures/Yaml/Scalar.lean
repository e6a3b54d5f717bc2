import BenchFigures.Json.Grammar
import BenchFigures.Yaml.Cursor

/-!
# Scalars

A scalar is written plain, between single or double quotes, or as a block of lines.
Within the first three, blanks around a line end are dropped and the line end is
folded: one becomes a space, of several all but the first remain. A block keeps its
line ends, or folds them between lines that do not start with a blank; an indicator
says what happens to the ones at its end.

Readers start after the indicator of their style and give back the characters and
the place after the scalar. They use fuel that the length of the text bounds.
-/

namespace BenchFigures.Yaml

/-- How a scalar is written. -/
inductive Style where
  | plain
  | quoted
  | folded
  | literal
  deriving DecidableEq, Repr

/-- Blanks and line ends between two words. -/
structure Gap where
  /-- The blanks, if no line ended. -/
  blanks : List Char
  /-- The line ends. -/
  breaks : List Char
  /-- Whether a line ended, be it one that does not count. -/
  folded : Bool
  /-- Whether the first line end was escaped and so does not count. -/
  escaped : Bool

namespace Gap

/-- No gap. -/
def none : Gap := ⟨[], [], false, false⟩

/-- The gap after an escaped line end. -/
def afterEscape : Gap := ⟨[], [], true, true⟩

/-- What a gap is read as. -/
def text (gap : Gap) : List Char :=
  if gap.escaped then gap.breaks
  else
    match gap.breaks with
    | [] => gap.blanks
    | ['\n'] => [' ']
    | '\n' :: others => others
    | others => others

/-- Read on from a gap. Where an indentation is given, a tab before it on a later
line is refused. -/
def read (indentation : Option Int) : Nat → Cursor → Gap → Option (Gap × Cursor)
  | 0, cursor, gap => some (gap, cursor)
  | fuel + 1, cursor, gap =>
    match cursor.breakLine? with
    | some (character, next) =>
      read indentation fuel next
        { gap with blanks := [], breaks := gap.breaks ++ [character], folded := true }
    | Option.none =>
      match cursor.rest with
      | character :: _ =>
        if !isBlank character then some (gap, cursor)
        else if character = '\t' && gap.folded &&
            indentation.any fun columns => (cursor.column : Int) < columns then Option.none
        else
          let blanks := if gap.folded then [] else gap.blanks ++ [character]
          read indentation fuel (cursor.skip 1) { gap with blanks }
      | [] => some (gap, cursor)

end Gap

/-- The characters that structure flow collections. -/
def isFlowIndicator (character : Char) : Bool :=
  character = ',' || character = '[' || character = ']' || character = '\x7b' || character = '\x7d'

/-- The characters of a plain scalar up to the next blank, line end or indicator
that ends it. In a flow collection a colon directly before an indicator is refused. -/
def plainWord (inFlow : Bool) : List Char → Option (List Char)
  | [] => some []
  | character :: rest =>
    if isBlank character || isBreak character then some []
    else if inFlow && character = ':' &&
        rest.head?.any (fun next => isFlowIndicator next || next = '?') then none
    else if (character = ':' && endsWord rest) || (inFlow && isFlowIndicator character) then some []
    else (plainWord inFlow rest).map (character :: ·)

/-- Read a plain scalar on from some text and the gap after it. The answer also
says whether a line ended after its last word. -/
def readPlain (inFlow : Bool) (indentation : Int) :
    Nat → Cursor → List Char → Gap → Option (List Char × Bool × Cursor)
  | 0, cursor, text, gap => some (text, gap.folded, cursor)
  | fuel + 1, cursor, text, gap =>
    if cursor.isAtSeparator || cursor.rest.head? = some '#' then some (text, gap.folded, cursor)
    else
      match plainWord inFlow cursor.rest with
      | none => none
      | some [] => some (text, gap.folded, cursor)
      | some word =>
        let after := cursor.skip word.length
        let text := text ++ gap.text ++ word
        match Gap.read (some indentation) after.rest.length after Gap.none with
        | none => none
        | some (gap, next) =>
          if !gap.folded && gap.blanks.isEmpty then some (text, false, next)
          else if !inFlow && (next.column : Int) < indentation then some (text, gap.folded, next)
          else readPlain inFlow indentation fuel next text gap

/-- The characters that escapes of one letter stand for. -/
def escaped? : Char → Option Char
  | '0' => some '\x00'
  | 'a' => some '\x07'
  | 'b' => some '\x08'
  | 't' | '\t' => some '\t'
  | 'n' => some '\n'
  | 'v' => some '\x0B'
  | 'f' => some '\x0C'
  | 'r' => some '\r'
  | 'e' => some '\x1B'
  | ' ' => some ' '
  | '"' => some '"'
  | '/' => some '/'
  | '\\' => some '\\'
  | 'N' => some '\u0085'
  | '_' => some '\u00A0'
  | 'L' => some '\u2028'
  | 'P' => some '\u2029'
  | _ => none

/-- How many hexadecimal digits follow the letter of an escape. -/
def escapeLength? : Char → Option Nat
  | 'x' => some 2
  | 'u' => some 4
  | 'U' => some 8
  | _ => none

/-- The character of a number in hexadecimal digits, if it is one. -/
def characterOf? (digits : List Char) : Option Char := do
  let values ← digits.mapM Json.hexDigit?
  let code := values.foldl (fun number digit => 16 * number + digit) 0
  if (0xD800 ≤ code ∧ code ≤ 0xDFFF) ∨ 0x10FFFF < code then none else some (Char.ofNat code)

/-- The character of an escape and what follows it, after the backslash. -/
def readEscape : List Char → Option (Char × List Char)
  | [] => none
  | letter :: rest =>
    match escapeLength? letter with
    | some count =>
      if (rest.take count).length = count then
        (characterOf? (rest.take count)).map fun character => (character, rest.drop count)
      else none
    | none => (escaped? letter).map fun character => (character, rest)

/-- The style of a quoted scalar. -/
inductive Quotes where
  | single
  | double
  deriving DecidableEq, Repr

/-- The mark that opens and closes a quoted scalar. -/
def Quotes.mark : Quotes → Char
  | .single => '\''
  | .double => '"'

/-- The characters of a quoted scalar up to the next blank, line end, escaped line
end or closing mark, and what follows them. -/
def quotedWord (quotes : Quotes) : Nat → List Char → Option (List Char × List Char)
  | 0, text => some ([], text)
  | fuel + 1, text =>
    match text with
    | [] => some ([], [])
    | character :: rest =>
      if isBlank character || isBreak character then some ([], text)
      else if quotes = .single && character = '\'' then
        match rest with
        | '\'' :: after =>
          (quotedWord quotes fuel after).map fun (word, last) => ('\'' :: word, last)
        | _ => some ([], text)
      else if character = quotes.mark then some ([], text)
      else if quotes = .double && character = '\\' then
        if rest.head?.any isBreak then some ([], text)
        else
          match readEscape rest with
          | none => none
          | some (meant, after) =>
            (quotedWord quotes fuel after).map fun (word, last) => (meant :: word, last)
      else (quotedWord quotes fuel rest).map fun (word, last) => (character :: word, last)

/-- Read a quoted scalar on from some text. -/
def readQuoted (quotes : Quotes) : Nat → Cursor → List Char → Option (List Char × Cursor)
  | 0, _, _ => none
  | fuel + 1, cursor, text =>
    if cursor.isAtSeparator || cursor.rest.isEmpty then none
    else
      match quotedWord quotes cursor.rest.length cursor.rest with
      | none => none
      | some (word, rest) =>
        let after := cursor.moveTo rest
        let text := text ++ word
        if rest.head? = some quotes.mark then some (text, after.skip 1)
        else
          let begun : Option (Gap × Cursor) :=
            match rest with
            | '\\' :: _ => (after.skip 1).breakLine?.map fun (_, next) => (Gap.afterEscape, next)
            | _ => some (Gap.none, after)
          match begun with
          | none => none
          | some (gap, next) =>
            match Gap.read none next.rest.length next gap with
            | none => none
            | some (gap, next) => readQuoted quotes fuel next (text ++ gap.text)

/-- What happens to the line ends at the end of a block: all are dropped, one is
kept, or all are. -/
inductive Chomping where
  | strip
  | clip
  | keep
  deriving DecidableEq, Repr

/-- The header of a block: how its end is chomped and how far it is indented, if it
says so. The two indicators may come in any order. -/
def blockHeader (text : List Char) : Option (Chomping × Option Nat × List Char) :=
  let chomping? (character : Char) : Option Chomping :=
    if character = '+' then some .keep else if character = '-' then some .strip else none
  let depth? (character : Char) : Option Nat := Numeral.digit? character
  match text with
  | first :: second :: rest =>
    match chomping? first, depth? first with
    | some chomping, _ =>
      match depth? second with
      | some 0 => none
      | some depth => some (chomping, some depth, rest)
      | none => some (chomping, none, second :: rest)
    | none, some 0 => none
    | none, some depth =>
      match chomping? second with
      | some chomping => some (chomping, some depth, rest)
      | none => some (.clip, some depth, second :: rest)
    | none, none => some (.clip, none, text)
  | [first] =>
    match chomping? first, depth? first with
    | some chomping, _ => some (chomping, none, [])
    | none, some 0 => none
    | none, some depth => some (.clip, some depth, [])
    | none, none => some (.clip, none, text)
  | [] => some (.clip, none, [])

/-- Pass over the rest of a line that may only hold blanks and a comment. -/
def restOfLine (cursor : Cursor) : Option Cursor :=
  let afterBlanks := cursor.skipWhile isBlank
  let afterComment :=
    if afterBlanks.rest.head? = some '#' then afterBlanks.skipWhile (!isBreak ·) else afterBlanks
  if !endsLine afterComment.rest then none
  else
    match afterComment.breakLine? with
    | some (_, next) => some next
    | none => some afterComment

/-- Pass over empty lines and indentation. The indentation is zero while it is not
known; then every space counts. The answer holds the line ends and the deepest
indentation seen. A tab within the indentation is refused. -/
def emptyLines (depth : Nat) :
    Nat → Cursor → List Char → Nat → Option (List Char × Nat × Cursor)
  | 0, cursor, breaks, deepest => some (breaks, deepest, cursor)
  | fuel + 1, cursor, breaks, deepest =>
    let spaces := (cursor.rest.takeWhile (· = ' ')).length
    let next := cursor.skip (if depth = 0 then spaces else min spaces (depth - cursor.column))
    let deepest := max deepest next.column
    if (depth = 0 || next.column < depth) && next.rest.head? = some '\t' then none
    else
      match next.breakLine? with
      | some (character, line) => emptyLines depth fuel line (breaks ++ [character]) deepest
      | none => some (breaks, deepest, next)

/-- A block while it is read: its text, the line end after its last line, the empty
lines after that, and whether the last line started with a blank. -/
structure Block where
  text : List Char
  lineEnd : List Char
  empty : List Char
  startsBlank : Bool

/-- Add a line to a block. A folded line end before it becomes a space, or nothing
if empty lines follow it, unless one of the two lines starts with a blank. -/
def Block.addLine (block : Block) (folding : Bool) (line : List Char) : Block :=
  let startsBlank := line.head?.any isBlank
  let joined :=
    if folding && block.lineEnd = ['\n'] && !block.startsBlank && !startsBlank then
      if block.empty.isEmpty then [' '] else []
    else block.lineEnd
  { block with text := block.text ++ joined ++ block.empty ++ line, lineEnd := [], empty := []
               startsBlank }

/-- Read the lines of a block. -/
def blockLines (folding : Bool) (depth : Nat) : Nat → Cursor → Block → Option (Block × Cursor)
  | 0, cursor, block => some (block, cursor)
  | fuel + 1, cursor, block =>
    if cursor.column ≠ depth || cursor.rest.isEmpty then some (block, cursor)
    else
      let line := cursor.rest.takeWhile (!isBreak ·)
      let after := cursor.skip line.length
      let (lineEnd, next) :=
        match after.breakLine? with
        | some (character, next) => ([character], next)
        | none => ([], after)
      match emptyLines depth (next.rest.length + 1) next [] 0 with
      | none => none
      | some (empty, _, start) =>
        blockLines folding depth fuel start { block.addLine folding line with lineEnd, empty }

/-- Read a block scalar inside a given indentation. -/
def readBlock (folding : Bool) (indentation : Int) (cursor : Cursor) :
    Option (List Char × Cursor) := do
  let (chomping, given, rest) ← blockHeader cursor.rest
  let start ← restOfLine (cursor.moveTo rest)
  let known := match given with
    | some depth => (max indentation 0).toNat + depth
    | none => 0
  let (empty, deepest, first) ← emptyLines known (start.rest.length + 1) start [] 0
  let depth := if known = 0 then max (max deepest (indentation + 1).toNat) 1 else known
  let (block, next) ← blockLines folding depth (first.rest.length + 1) first ⟨[], [], empty, false⟩
  let ending := match chomping with
    | .strip => []
    | .clip => block.lineEnd
    | .keep => block.lineEnd ++ block.empty
  return (block.text ++ ending, next)

end BenchFigures.Yaml
