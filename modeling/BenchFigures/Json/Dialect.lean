import BenchFigures.Configuration.Decode
import BenchFigures.Json.Grammar

/-!
# Configurations in JSON

A record is an object, or an array of its fields in order of which the last ones
may be missing. A level is its name, or an object with the name as its only key and
nothing in it. Only optional fields may be null.
-/

namespace BenchFigures.Json

/-- A text that may be absent. -/
def optionalString? : Json → Option (Option String)
  | .null => some none
  | value => value.string?.map some

/-- A binary64 number. -/
def float? : Json → Option Float
  | .number written => written.float?
  | _ => none

/-- A number of 32 bits without a sign. -/
def size? : Json → Option Nat
  | .number written => written.size? 32
  | _ => none

/-- An optimization level. -/
def level? : Json → Option OptimizationLevel
  | .object [(key, .null)] => do
    OptimizationLevel.ofName? (String.ofList (← Text.characters? key))
  | value => value.string?.bind OptimizationLevel.ofName?

/-- The items of an array. -/
def items? : Json → Option (List Json)
  | .array items => some items
  | _ => none

/-- The members of an object with one of the given names. Every key must denote a
string, known or not. -/
def membersNamed (names : List String) (members : List (Text × Json)) :
    Option (List (String × Json)) := do
  let named ← members.mapM fun (key, value) => do
    return (String.ofList (← Text.characters? key), value)
  return named.filter fun (name, _) => names.contains name

/-- The members of a record. -/
def members? (names : List String) : Json → Option (List (String × Json))
  | .object members => membersNamed names members
  | .array items => if items.length ≤ names.length then some (names.zip items) else none
  | _ => none

/-- How JSON shows a configuration. -/
def dialect : Dialect Json :=
  { string? := string?, optionalString? := optionalString?, float? := float?, size? := size?
    level? := level?, items? := items?, members? := members? }

/-- The configuration that a text holds. -/
def configuration? (text : List Char) : Option Configuration :=
  (parse? text).bind dialect.configuration?

end BenchFigures.Json
