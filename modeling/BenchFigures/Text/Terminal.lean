import BenchFigures.Text.Quoted

/-!
# Text for a terminal

Some control characters are commands to a terminal: they ring, move back, erase, or
start a longer command. Where text from elsewhere is shown on one, each of these is
written by its number instead, so that it can be read and does nothing. Tabs, line
ends and the controls that terminals ignore stay as they are.
-/

namespace BenchFigures.Text

/-- The commands with a seven-bit number: bell, backspace, form feed, escape, delete. -/
def commands : List Char := ['\x07', '\x08', '\x0c', '\x1b', '\x7f']

/-- Whether a character is a command with an eight-bit number. -/
def isLongCommand (character : Char) : Bool :=
  0x80 ≤ character.toNat && character.toNat ≤ 0x9F

/-- How a character is written to a terminal. -/
def readable (character : Char) : List Char :=
  if commands.contains character then
    ['\\', 'x', Nat.digitChar (character.toNat / 16), Nat.digitChar (character.toNat % 16)]
  else if isLongCommand character then byNumber character
  else [character]

/-- A text without commands to the terminal. -/
def forTerminal (text : String) : String := String.ofList (text.toList.flatMap readable)

end BenchFigures.Text
