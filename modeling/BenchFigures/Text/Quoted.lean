import BenchFigures.Text.Shown

/-!
# Quoted text

Text in the dump of a configuration stands between quotes. A backslash marks what
could be misread: quotes, backslashes, line ends and tabs have short forms, and
characters that do not show are written by their number.
-/

namespace BenchFigures.Text

/-- A character written by its number. -/
def byNumber (character : Char) : List Char :=
  '\\' :: 'u' :: '\x7b' :: (Nat.toDigits 16 character.toNat ++ ['\x7d'])

/-- How a character is written between quotes. -/
def escape (character : Char) : List Char :=
  match character with
  | '\x00' => ['\\', '0']
  | '\t' => ['\\', 't']
  | '\r' => ['\\', 'r']
  | '\n' => ['\\', 'n']
  | '\\' => ['\\', '\\']
  | '"' => ['\\', '"']
  | _ =>
    if isShown character then [character] else byNumber character

/-- A text between quotes. -/
def quoted (text : String) : String :=
  "\"" ++ String.ofList (text.toList.flatMap escape) ++ "\""

end BenchFigures.Text
