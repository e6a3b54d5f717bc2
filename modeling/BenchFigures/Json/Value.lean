import BenchFigures.Json.Number

/-!
# JSON values

A value is read without regard to what it is for. Members of an object keep their
order and their repetitions. A text is a list of characters in which single halves
of surrogate pairs may stand as gaps: such a text is accepted where nothing is asked
of it, but it denotes no string.
-/

namespace BenchFigures

/-- A text as read: a gap stands for half a surrogate pair. -/
abbrev Json.Text := List (Option Char)

/-- A JSON value. -/
inductive Json where
  | null
  | boolean (value : Bool)
  | number (number : Json.Number)
  | string (text : Json.Text)
  | array (items : List Json)
  | object (members : List (Json.Text × Json))

namespace Json

/-- The characters of a text without gaps. -/
def Text.characters? (text : Text) : Option (List Char) := text.mapM id

/-- The string a value is. -/
def string? : Json → Option String
  | .string text => (Text.characters? text).map String.ofList
  | _ => none

end Json

end BenchFigures
