import BenchFigures.Yaml.Token

/-!
# Nodes

The tokens of a document form a tree of scalars, sequences and mappings. A value
that is left out is an empty plain scalar. Tags matter for scalars only; those of
collections are read and forgotten.

An anchor names the node after it. Where the node begins, the name gets a number: the
count of different names so far. An alias has the number of its name and stands for
the last node of that number, even for one that begins later or that it is part of.

A text holds one document; one that holds nothing is an empty scalar. Readers take
tokens from the front and use fuel; each level of nesting and each entry takes a
token, so five steps for a token are enough.
-/

namespace BenchFigures.Yaml

/-- A node of a document. An alias stands for the last node of its number. -/
inductive Node where
  | scalar (style : Style) (tag : Option Tag) (text : List Char)
  | sequence (items : List Node)
  | mapping (pairs : List (Node × Node))
  | alias (number : Nat)

/-- The named nodes of a document. -/
structure Anchors where
  /-- The names and their numbers, the newest first. -/
  names : List (List Char × Nat)
  /-- The nodes that were read, each with the count of names before its own. -/
  nodes : List (Nat × Node)

namespace Anchors

/-- No names yet. -/
def none : Anchors := ⟨[], []⟩

/-- The number that a name gets: the count of different names before it. -/
def next (anchors : Anchors) : Nat := (anchors.names.map Prod.fst).eraseDups.length

/-- Note that a node of a name begins. -/
def begin (anchors : Anchors) (name : List Char) : Anchors :=
  { anchors with names := (name, anchors.next) :: anchors.names }

/-- Note the node with so many names before its own. -/
def finish (anchors : Anchors) (place : Nat) (node : Node) : Anchors :=
  { anchors with nodes := (place, node) :: anchors.nodes }

/-- The last node of a number. -/
def node? (anchors : Anchors) (number : Nat) : Option Node := do
  let later ← anchors.names.findIdx? (·.2 = number)
  anchors.nodes.lookup (anchors.names.length - 1 - later)

end Anchors

/-- A document: its only node, and the nodes that its aliases stand for. -/
structure Document where
  root : Node
  anchors : Anchors

namespace Node

/-- What stands for a value that is left out. -/
def empty : Node := .scalar .plain .none []

/-- The tokens that are left, what handles are short for, and the anchors so far. -/
structure Reading where
  tokens : List Token
  handles : Tag.Handles
  anchors : Anchors

/-- Reading something from the front of the tokens. -/
abbrev Reader := StateT Reading Option

namespace Reader

/-- The next token, which stays. -/
def peek : Reader (Option Token) := return (← get).tokens.head?

/-- Pass over the next token. -/
def skip : Reader Unit := modify fun reading => { reading with tokens := reading.tokens.drop 1 }

/-- Whether the next token is one of some tokens, or there is none. -/
def endsAt (tokens : List Token) : Reader Bool := do
  match ← peek with
  | some token => return tokens.contains token
  | none => return true

/-- The tag that was written. Its handle must be known. -/
def resolve (written : Tag.Written) : Reader Tag := do
  match written.tag? (← get).handles with
  | some tag => return tag
  | none => failure

/-- The anchor and the tag before a node, in any order. Each may be missing. -/
def properties : Reader (Option (List Char) × Option Tag) := do
  match (← get).tokens with
  | .anchor name :: .tag written :: _ | .tag written :: .anchor name :: _ => do
    skip
    skip
    return (some name, some (← resolve written))
  | .anchor name :: _ => do
    skip
    return (some name, none)
  | .tag written :: _ => do
    skip
    return (none, some (← resolve written))
  | _ => return (none, none)

/-- An alias of a name that is known. -/
def aliased (name : List Char) : Reader Node := do
  skip
  match (← get).anchors.names.lookup name with
  | some number => return .alias number
  | none => failure

/-- Note that a node begins, if it has an anchor: the count of names before its own. -/
def begin (anchor : Option (List Char)) : Reader (Option Nat) := do
  match anchor with
  | some name =>
    let place := (← get).anchors.names.length
    modify fun reading => { reading with anchors := reading.anchors.begin name }
    return some place
  | none => return none

/-- Note a node that is read, if it has an anchor. -/
def finish (place : Option Nat) (node : Node) : Reader Node := do
  match place with
  | some place =>
    modify fun reading => { reading with anchors := reading.anchors.finish place node }
  | none => pure ()
  return node

mutual

/-- A node. A block collection must be allowed, and so must a sequence that is not
indented. -/
def node : Nat → Bool → Bool → Reader Node
  | 0, _, _ => failure
  | fuel + 1, block, unindented => do
    match ← peek with
    | some (.alias name) => aliased name
    | _ =>
      let (anchor, tag) ← properties
      let place ← begin anchor
      finish place (← content fuel block unindented (anchor.isSome || tag.isSome) tag)

/-- A node after its anchor and tag. With one of those, nothing more is needed. -/
def content : Nat → Bool → Bool → Bool → Option Tag → Reader Node
  | 0, _, _, _, _ => failure
  | fuel + 1, block, unindented, marked, tag => do
    match ← peek with
    | some (.scalar style text) => do
      skip
      return .scalar style tag text
    | some .flowSequenceStart => do
      skip
      return .sequence (← flowItems fuel true)
    | some .flowMappingStart => do
      skip
      return .mapping (← flowPairs fuel true)
    | some token =>
      if token = .blockEntry && unindented then return .sequence (← unindentedItems fuel)
      else if token = .blockSequenceStart && block then do
        skip
        return .sequence (← blockItems fuel)
      else if token = .blockMappingStart && block then do
        skip
        return .mapping (← blockPairs fuel)
      else if marked then return .scalar .plain tag []
      else failure
    | none => if marked then return .scalar .plain tag [] else failure

/-- A node, or an empty scalar where one of the given tokens comes next. -/
def nodeUnless : Nat → List Token → Bool → Bool → Reader Node
  | 0, _, _, _ => failure
  | fuel + 1, tokens, block, unindented => do
    if ← endsAt tokens then return empty else node fuel block unindented

/-- The items of an indented block sequence and its end. -/
def blockItems : Nat → Reader (List Node)
  | 0 => failure
  | fuel + 1 => do
    match ← peek with
    | some .blockEntry => do
      skip
      let item ← nodeUnless fuel [.blockEntry, .blockEnd] true false
      return item :: (← blockItems fuel)
    | some .blockEnd => do
      skip
      return []
    | _ => failure

/-- The items of a block sequence that is not indented. -/
def unindentedItems : Nat → Reader (List Node)
  | 0 => failure
  | fuel + 1 => do
    match ← peek with
    | some .blockEntry => do
      skip
      let item ← nodeUnless fuel [.blockEntry, .key, .value, .blockEnd] true false
      return item :: (← unindentedItems fuel)
    | _ => return []

/-- The pairs of a block mapping and its end. -/
def blockPairs : Nat → Reader (List (Node × Node))
  | 0 => failure
  | fuel + 1 => do
    match ← peek with
    | some .key => do
      skip
      let key ← nodeUnless fuel [.key, .value, .blockEnd] true true
      let value ← valueUnless fuel [.key, .value, .blockEnd] true true
      return (key, value) :: (← blockPairs fuel)
    | some .blockEnd => do
      skip
      return []
    | _ => failure

/-- The value of a pair: what follows the colon, or an empty scalar without one. -/
def valueUnless : Nat → List Token → Bool → Bool → Reader Node
  | 0, _, _, _ => failure
  | fuel + 1, tokens, block, unindented => do
    match ← peek with
    | some .value => do
      skip
      nodeUnless fuel tokens block unindented
    | _ => return empty

/-- The items of a flow sequence and its end. A comma stands before each item but
the first; a single pair may stand as an item. -/
def flowItems : Nat → Bool → Reader (List Node)
  | 0, _ => failure
  | fuel + 1, first => do
    if (← peek) = some .flowSequenceEnd then do
      skip
      return []
    if !first then comma
    match ← peek with
    | some .flowSequenceEnd => do
      skip
      return []
    | some .key => do
      skip
      let key ← pairKey fuel
      let value ← valueUnless fuel [.flowEntry, .flowSequenceEnd] false false
      return .mapping [(key, value)] :: (← flowItems fuel false)
    | _ => do
      let item ← node fuel false false
      return item :: (← flowItems fuel false)

/-- The key of a pair that stands as an item. Where it is left out, the colon, comma
or bracket that comes instead is passed over. -/
def pairKey : Nat → Reader Node
  | 0 => failure
  | fuel + 1 => do
    if ← endsAt [.value, .flowEntry, .flowSequenceEnd] then do
      skip
      return empty
    else node fuel false false

/-- The pairs of a flow mapping and its end. A node alone is a key without a value. -/
def flowPairs : Nat → Bool → Reader (List (Node × Node))
  | 0, _ => failure
  | fuel + 1, first => do
    if (← peek) = some .flowMappingEnd then do
      skip
      return []
    if !first then comma
    match ← peek with
    | some .flowMappingEnd => do
      skip
      return []
    | some .key => do
      skip
      let key ← nodeUnless fuel [.value, .flowEntry, .flowMappingEnd] false false
      let value ← valueUnless fuel [.flowEntry, .flowMappingEnd] false false
      return (key, value) :: (← flowPairs fuel false)
    | _ => do
      let key ← node fuel false false
      return (key, empty) :: (← flowPairs fuel false)

/-- The comma between entries. -/
def comma : Reader Unit := do
  if (← peek) = some .flowEntry then skip else failure

end

/-- Pass over equal tokens. -/
def skipAll (token : Token) : Reader Unit :=
  modify fun reading => { reading with tokens := reading.tokens.dropWhile (· = token) }

/-- Pass over the directives, and note what they say about handles. The answer says
whether there were any. -/
def directives : Reader Bool := do
  let given := (← get).tokens.map Token.directive? |>.takeWhile Option.isSome |>.filterMap id
  match Directive.handles? given with
  | some handles =>
    modify fun reading => { reading with tokens := reading.tokens.drop given.length, handles }
    return !given.isEmpty
  | none => failure

/-- The only document of a text. It may start with a mark, which directives need, and
end with marks; nothing may follow. -/
def document (fuel : Nat) : Reader Node := do
  let announced ← directives
  let root ←
    if (← peek) = some .documentStart then do
      skip
      nodeUnless fuel [.documentStart, .documentEnd] true false
    else if announced then failure
    else if (← peek).isNone then pure empty
    else node fuel true false
  skipAll .documentEnd
  if (← peek).isNone then return root else failure

end Reader

end Node

namespace Document

/-- The document that tokens form. -/
def ofTokens? (tokens : List Token) : Option Document := do
  let start : Node.Reading := ⟨tokens, Tag.standardHandles, Anchors.none⟩
  let (root, reading) ← (Node.Reader.document (5 * tokens.length + 5)).run start
  return ⟨root, reading.anchors⟩

/-- The document that a text holds. -/
def parse? (text : List Char) : Option Document := (tokens? text).bind ofTokens?

end Document

end BenchFigures.Yaml
