import BenchFigures.Configuration.Decode
import BenchFigures.Yaml.Node

/-!
# Configurations in YAML

Every scalar is a text. Numbers and missing texts must be plain; a number may also be
literal with the tag of its kind. A level is its name, or an empty value with its name
as a local tag. A value left out is an empty record or an empty list, but there are no
records written as lists.
-/

namespace BenchFigures.Yaml

namespace Tag

/-- The tag of whole numbers. -/
def int : Tag := ofText "tag:yaml.org,2002:int"

/-- The tag of floating point numbers. -/
def float : Tag := ofText "tag:yaml.org,2002:float"

/-- The tag of missing values. -/
def null : Tag := ofText "tag:yaml.org,2002:null"

/-- The name in a local tag, after its exclamation mark. -/
def localName? (tag : Tag) : Option String :=
  if tag.head? = some 0x21 then (Text.decode? (tag.drop 1)).map String.ofList else none

end Tag

namespace Node

/-- A text is any scalar. -/
def string? : Node → Option String
  | .scalar _ _ text => some (String.ofList text)
  | _ => none

/-- Whether a text is a word for a missing value. -/
def isNullWord (text : List Char) : Bool :=
  ["~", "null", "Null", "NULL"].contains (String.ofList text)

/-- Whether a plain text stands for nothing. -/
def isNull (text : List Char) : Bool := text.isEmpty || isNullWord text

/-- A text that may be absent. Only a plain scalar is; with a tag it must have the
tag of missing values, and then it must be a word for one. -/
def optionalString? : Node → Option (Option String)
  | .scalar .plain none text => some (if isNull text then none else some (String.ofList text))
  | .scalar .plain (some tag) text =>
    if tag = Tag.null then if isNullWord text then some none else none
    else some (some (String.ofList text))
  | node => node.string?.map some

/-- The text of a number: a plain scalar, or a literal one of the given tag. -/
def numeral? (kind : Tag) : Node → Option (List Char)
  | .scalar .plain _ text => some text
  | .scalar .literal tag text => if tag = some kind then some text else none
  | _ => none

/-- The words for infinities and not-a-number. -/
def floatWord? (text : String) : Option Float :=
  if [".inf", ".Inf", ".INF", "+.inf", "+.Inf", "+.INF"].contains text then some (1.0 / 0.0)
  else if ["-.inf", "-.Inf", "-.INF"].contains text then some (-1.0 / 0.0)
  else if [".nan", ".NaN", ".NAN"].contains text then some (0.0 / 0.0)
  else none

/-- A finite decimal with at most one sign. -/
def finiteFloat? (text : List Char) : Option Float :=
  match Numeral.float text with
  | .ok number => if Binary64.isFinite number then some number else none
  | .error _ => none

/-- A binary64 number. -/
def float? (node : Node) : Option Float := do
  let text ← node.numeral? Tag.float
  floatWord? (String.ofList text) <|> finiteFloat? text

/-- The number of digits in a base, of which there must be one. -/
def inBase? (base : Nat) (digits : List Char) : Option Nat :=
  if digits.isEmpty then none
  else digits.foldlM (fun number character => do
    let digit ← Json.hexDigit? character
    if digit < base then some (base * number + digit) else none) 0

/-- A number without a sign: decimal without leading zeros, or in base sixteen,
eight or two. A plus may stand before it. -/
def natural? (text : List Char) : Option Nat :=
  match (if text.head? = some '+' then text.drop 1 else text) with
  | '0' :: 'x' :: digits => inBase? 16 digits
  | '0' :: 'o' :: digits => inBase? 8 digits
  | '0' :: 'b' :: digits => inBase? 2 digits
  | ['0'] => some 0
  | '0' :: _ => none
  | digits => inBase? 10 digits

/-- A number of 32 bits without a sign. -/
def size? (node : Node) : Option Nat := do
  let text ← node.numeral? Tag.int
  (natural? text).filter (· < Nat.pow 2 32)

/-- An optimization level. One that is named by a tag has no value. -/
def level? : Node → Option OptimizationLevel
  | .scalar style tag text =>
    match tag.bind Tag.localName? with
    | some name => if style = .plain && isNull text then OptimizationLevel.ofName? name else none
    | none => OptimizationLevel.ofName? (String.ofList text)
  | _ => none

/-- The items of a sequence. -/
def items? : Node → Option (List Node)
  | .sequence items => some items
  | .scalar .plain _ [] => some []
  | _ => none

/-- The pairs of a mapping. -/
def pairs? : Node → Option (List (Node × Node))
  | .mapping pairs => some pairs
  | .scalar .plain _ [] => some []
  | _ => none

end Node

namespace Anchors

/-- What a node is, or stands for if it is an alias. -/
def follow (anchors : Anchors) : Node → Node
  | .alias number => (anchors.node? number).getD .empty
  | node => node

/-- The members of a mapping with one of the given names. Every key must be a
scalar. -/
def members? (anchors : Anchors) (names : List String) (node : Node) :
    Option (List (String × Node)) := do
  let pairs ← (anchors.follow node).pairs?
  let named ← pairs.mapM fun (key, value) =>
    (anchors.follow key).string?.map fun name => (name, value)
  return named.filter fun (name, _) => names.contains name

/-- How YAML shows a configuration. Aliases are followed wherever they stand. -/
def dialect (anchors : Anchors) : Dialect Node :=
  { string? := fun node => (anchors.follow node).string?
    optionalString? := fun node => (anchors.follow node).optionalString?
    float? := fun node => (anchors.follow node).float?
    size? := fun node => (anchors.follow node).size?
    level? := fun node => (anchors.follow node).level?
    items? := fun node => (anchors.follow node).items?
    members? := anchors.members? }

end Anchors

/-- The configuration that a text holds. -/
def configuration? (text : List Char) : Option Configuration := do
  let document ← Document.parse? text
  document.anchors.dialect.configuration? document.root

end BenchFigures.Yaml
