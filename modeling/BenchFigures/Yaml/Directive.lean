import BenchFigures.Decimal.Numeral
import BenchFigures.Yaml.Tag

/-!
# Directives

Lines at the front of a document that start with a percent sign. One gives the
version of the format, the others say what handles of tags are short for.
-/

namespace BenchFigures.Yaml

/-- A directive: the version of the format, or what a handle is short for. -/
inductive Directive where
  | version
  | handle (handle : List Char) (tag : Tag)
  deriving DecidableEq, Repr

namespace Directive

/-- Drop spaces and tabs. -/
def dropBlanks (text : List Char) : List Char := text.dropWhile isBlank

/-- A number of at most nine digits. -/
def number? (text : List Char) : Option (Nat × List Char) :=
  let digits := text.takeWhile Numeral.isDigit
  if digits.isEmpty || 9 < digits.length then none
  else some (Numeral.valueOf digits 0, text.drop digits.length)

/-- The version: 1.1 or 1.2, be it with leading zeros. -/
def version? (text : List Char) : Option (Directive × List Char) := do
  match ← number? (dropBlanks text) with
  | (1, '.' :: rest) => do
    let (minor, after) ← number? rest
    if minor = 1 ∨ minor = 2 then return (version, after) else none
  | _ => none

/-- A handle, which has two marks or is one, and what it is short for. -/
def handle? (text : List Char) : Option (Directive × List Char) := do
  let (name, rest) ← Tag.handle? (dropBlanks text)
  if (name = ['!'] || Tag.isClosed name) && rest.head?.any isBlank then
    let (tag, after) ← Tag.someBytes? true (dropBlanks rest)
    if endsWord after then return (handle name tag, after) else none
  else none

/-- The directive at the front of a text, after the percent sign. -/
def read? (text : List Char) : Option (Directive × List Char) :=
  let rest := text.dropWhile isNameCharacter
  if !endsWord rest then none
  else
    match String.ofList (text.takeWhile isNameCharacter) with
    | "YAML" => version? rest
    | "TAG" => handle? rest
    | _ => none

/-- What handles are short for after some directives. There may be one version, and
one directive for a handle. -/
def handles? (directives : List Directive) : Option Tag.Handles :=
  let given := directives.filterMap fun directive =>
    match directive with
    | .handle name tag => some (name, tag)
    | .version => none
  if directives.count .version ≤ 1 ∧ (given.map Prod.fst).Nodup then
    some (given ++ Tag.standardHandles)
  else none

end Directive

end BenchFigures.Yaml
