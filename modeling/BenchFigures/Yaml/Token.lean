import BenchFigures.Yaml.Directive
import BenchFigures.Yaml.Scalar

/-!
# Tokens

A YAML text is read as tokens. Outside flow collections, indentation opens and
closes block collections: a deeper line opens one and a shallower line closes all
that are deeper. A key needs no mark of its own before it. Whatever may turn out to
be a key is remembered, and if a colon follows it on the same line and not too far
away, the tokens that announce the key are put in front of it.
-/

namespace BenchFigures.Yaml

/-- The tokens of a text. Scalars say how they are written. -/
inductive Token where
  | directive (directive : Directive)
  | documentStart
  | documentEnd
  | blockSequenceStart
  | blockMappingStart
  | blockEnd
  | flowSequenceStart
  | flowSequenceEnd
  | flowMappingStart
  | flowMappingEnd
  | blockEntry
  | flowEntry
  | key
  | value
  | anchor (name : List Char)
  | alias (name : List Char)
  | tag (written : Tag.Written)
  | scalar (style : Style) (text : List Char)
  deriving DecidableEq, Repr

/-- The directive that a token is. -/
def Token.directive? : Token → Option Directive
  | .directive found => some found
  | _ => none

/-- What may turn out to be a key: whether it must, the tokens before it and where
it stands. -/
structure PossibleKey where
  required : Bool
  position : Nat
  line : Nat
  column : Nat
  index : Nat
  deriving DecidableEq, Repr

/-- How far a colon may be from the start of its key, in bytes. -/
def keyReach : Nat := 1024

/-- The reading of a text: where it is, the tokens so far, the possible key of each
open flow collection and of the block around them, innermost first, the columns of
the open block collections, innermost first, and whether a key may start here. -/
structure Layout where
  cursor : Cursor
  tokens : List Token
  key : Option PossibleKey
  outerKeys : List (Option PossibleKey)
  columns : List Nat
  keyAllowed : Bool

namespace Layout

/-- The start of a text. -/
def start (text : List Char) : Layout :=
  { cursor := .start text, tokens := [], key := none, outerKeys := [], columns := []
    keyAllowed := true }

/-- Whether a flow collection is open. -/
def inFlow (layout : Layout) : Bool := !layout.outerKeys.isEmpty

/-- The column of the innermost block collection, or one less than any. -/
def indentation (layout : Layout) : Int :=
  match layout.columns with
  | column :: _ => column
  | [] => -1

/-- Append a token. -/
def push (layout : Layout) (token : Token) : Layout :=
  { layout with tokens := layout.tokens ++ [token] }

/-- Pass over so many characters and append a token. -/
def accept (layout : Layout) (count : Nat) (token : Token) : Layout :=
  { layout.push token with cursor := layout.cursor.skip count }

/-- Open a block collection at a column, unless one is open there or deeper. Its
token goes to the given position. -/
def openBlock (layout : Layout) (column position : Nat) (token : Token) : Layout :=
  if layout.inFlow || (column : Int) ≤ layout.indentation then layout
  else
    { layout with
      tokens := layout.tokens.insertIdx position token
      columns := column :: layout.columns }

/-- Close the block collections deeper than a column. -/
def closeBlocks (layout : Layout) (column : Int) : Layout :=
  if layout.inFlow then layout
  else
    let deeper := layout.columns.takeWhile fun (inner : Nat) => column < (inner : Int)
    { layout with
      tokens := layout.tokens ++ deeper.map fun _ => .blockEnd
      columns := layout.columns.drop deeper.length }

/-- Forget the possible key. One that had to be a key is an error. -/
def dropKey (layout : Layout) : Option Layout :=
  if layout.key.any (·.required) then none else some { layout with key := none }

/-- Remember that a key may start here. -/
def saveKey (layout : Layout) : Option Layout :=
  if layout.keyAllowed then do
    let dropped ← layout.dropKey
    let required := !layout.inFlow && layout.indentation = (layout.cursor.column : Int)
    return { dropped with
      key := some ⟨required, layout.tokens.length, layout.cursor.line, layout.cursor.column,
        layout.cursor.index⟩ }
  else some layout

/-- Whether a possible key is on an earlier line or too far back. -/
def isStale (cursor : Cursor) (key : PossibleKey) : Bool :=
  key.line < cursor.line || key.index + keyReach < cursor.index

/-- A possible key, unless it is stale. A stale one that had to be a key is an error. -/
def freshKey (cursor : Cursor) : Option PossibleKey → Option (Option PossibleKey)
  | none => some none
  | some key =>
    if isStale cursor key then if key.required then none else some none else some (some key)

/-- Forget all stale keys. -/
def dropStaleKeys (layout : Layout) : Option Layout := do
  let key ← freshKey layout.cursor layout.key
  let outerKeys ← layout.outerKeys.mapM (freshKey layout.cursor)
  return { layout with key, outerKeys }

/-- Pass over blanks, comments and line ends. A byte order mark may start a line, of
which it is the first column. A tab may not stand where a key could start. Outside
flow collections a key may start on a new line. -/
def toNextToken : Nat → Layout → Layout
  | 0, layout => layout
  | fuel + 1, layout =>
    let cursor := layout.cursor
    let unmarked :=
      if cursor.column = 0 && cursor.rest.head? = some '\uFEFF' then cursor.skip 1 else cursor
    let tabs := layout.inFlow || !layout.keyAllowed
    let afterBlanks := unmarked.skipWhile fun character =>
      character = ' ' || (tabs && character = '\t')
    let afterComment :=
      if afterBlanks.rest.head? = some '#' then afterBlanks.skipWhile (!isBreak ·) else afterBlanks
    match afterComment.breakLine? with
    | some (_, next) =>
      toNextToken fuel
        { layout with cursor := next, keyAllowed := layout.keyAllowed || !layout.inFlow }
    | none => { layout with cursor := afterComment }

/-- A mark between documents. -/
def documentMark (layout : Layout) (token : Token) : Option Layout := do
  let closed ← (layout.closeBlocks (-1)).dropKey
  return { closed.accept 3 token with keyAllowed := false }

/-- The start of a flow collection. -/
def openFlow (layout : Layout) (token : Token) : Option Layout := do
  let saved ← layout.saveKey
  return { saved.accept 1 token with
    key := none, outerKeys := saved.key :: saved.outerKeys, keyAllowed := true }

/-- The end of a flow collection. -/
def closeFlow (layout : Layout) (token : Token) : Option Layout := do
  let dropped ← layout.dropKey
  let closed := match dropped.outerKeys with
    | key :: outerKeys => { dropped with key, outerKeys }
    | [] => dropped
  return { closed.accept 1 token with keyAllowed := false }

/-- The comma between entries of a flow collection. -/
def flowEntry (layout : Layout) : Option Layout := do
  let dropped ← layout.dropKey
  return { dropped.accept 1 .flowEntry with keyAllowed := true }

/-- The start of a block collection where its first entry stands. It needs a place
where a key could start. -/
def beginBlock (layout : Layout) (token : Token) : Option Layout :=
  if layout.inFlow then some layout
  else if !layout.keyAllowed then none
  else some (layout.openBlock layout.cursor.column layout.tokens.length token)

/-- The dash before an entry of a block sequence. -/
def blockEntry (layout : Layout) : Option Layout := do
  let opened ← layout.beginBlock .blockSequenceStart
  let dropped ← opened.dropKey
  return { dropped.accept 1 .blockEntry with keyAllowed := true }

/-- The question mark before a key. -/
def explicitKey (layout : Layout) : Option Layout := do
  let opened ← layout.beginBlock .blockMappingStart
  let dropped ← opened.dropKey
  return { dropped.accept 1 .key with keyAllowed := !layout.inFlow }

/-- The colon before a value. What was remembered as a possible key is one. -/
def value (layout : Layout) : Option Layout :=
  match layout.key with
  | some key =>
    let announced := { layout with
      tokens := layout.tokens.insertIdx key.position .key, key := none }
    let opened := announced.openBlock key.column key.position .blockMappingStart
    some { opened.accept 1 .value with keyAllowed := false }
  | none => do
    let opened ← layout.beginBlock .blockMappingStart
    return { opened.accept 1 .value with keyAllowed := !layout.inFlow }

/-- The name of an anchor or alias, after its indicator. -/
def name? (text : List Char) : Option (List Char) :=
  let name := text.takeWhile isNameCharacter
  let after := text.dropWhile isNameCharacter
  if name.isEmpty then none
  else if endsWord after then some name
  else if after.head?.any ("?:,]\x7d%@\x60".toList.contains ·) then some name
  else none

/-- An anchor or an alias. -/
def named (layout : Layout) (token : List Char → Token) : Option Layout := do
  let saved ← layout.saveKey
  let name ← name? (layout.cursor.rest.drop 1)
  return { saved.accept (name.length + 1) (token name) with keyAllowed := false }

/-- A tag. A blank, the end of the line or a comma in a flow collection follows it. -/
def tag (layout : Layout) : Option Layout := do
  let saved ← layout.saveKey
  let (written, rest) ← Tag.written? layout.cursor.rest
  if endsWord rest || (layout.inFlow && rest.head? = some ',') then
    return { saved.push (.tag written) with
      cursor := layout.cursor.moveTo rest, keyAllowed := false }
  else none

/-- A directive, and the rest of its line. -/
def directive (layout : Layout) : Option Layout := do
  let closed ← (layout.closeBlocks (-1)).dropKey
  let (directive, rest) ← Directive.read? (closed.cursor.rest.drop 1)
  let cursor ← restOfLine (closed.cursor.moveTo rest)
  return { closed.push (.directive directive) with cursor, keyAllowed := false }

/-- A block scalar, after its indicator. -/
def blockScalar (layout : Layout) (folding : Bool) : Option Layout := do
  let dropped ← layout.dropKey
  let (text, cursor) ← readBlock folding layout.indentation (layout.cursor.skip 1)
  let style := if folding then .folded else .literal
  return { dropped.push (.scalar style text) with cursor, keyAllowed := true }

/-- A quoted scalar. -/
def quotedScalar (layout : Layout) (quotes : Quotes) : Option Layout := do
  let saved ← layout.saveKey
  let start := layout.cursor.skip 1
  let (text, cursor) ← readQuoted quotes (start.rest.length + 1) start []
  return { saved.push (.scalar .quoted text) with cursor, keyAllowed := false }

/-- A plain scalar. A key may start after it if it was followed by a line end. -/
def plainScalar (layout : Layout) : Option Layout := do
  let saved ← layout.saveKey
  let (text, folded, cursor) ← readPlain layout.inFlow (layout.indentation + 1)
    (layout.cursor.rest.length + 1) layout.cursor [] Gap.none
  return { saved.push (.scalar .plain text) with cursor, keyAllowed := folded }

/-- The characters that start no plain scalar. -/
def indicators : List Char := "-?:,[]\x7b\x7d#&*!|>'\"%@\x60".toList

/-- Whether a plain scalar starts here. Dashes, question marks and colons may start
one if they do not stand alone. -/
def startsPlain (inFlow : Bool) : List Char → Bool
  | [] => false
  | first :: rest =>
    (!isBlank first && !isBreak first && !indicators.contains first) ||
      (first = '-' && !rest.head?.any isBlank) ||
      (!inFlow && (first = '?' || first = ':') && !endsWord rest)

/-- Read one token. -/
def next (layout : Layout) : Option Layout :=
  let cursor := layout.cursor
  let alone := endsWord (cursor.rest.drop 1)
  if cursor.column = 0 && cursor.rest.head? = some '%' then layout.directive
  else if cursor.isAtTriple '-' then layout.documentMark .documentStart
  else if cursor.isAtTriple '.' then layout.documentMark .documentEnd
  else
    match cursor.rest.head? with
    | some '[' => layout.openFlow .flowSequenceStart
    | some '\x7b' => layout.openFlow .flowMappingStart
    | some ']' => layout.closeFlow .flowSequenceEnd
    | some '\x7d' => layout.closeFlow .flowMappingEnd
    | some ',' => layout.flowEntry
    | some '*' => layout.named .alias
    | some '&' => layout.named .anchor
    | some '!' => layout.tag
    | some '\'' => layout.quotedScalar .single
    | some '"' => layout.quotedScalar .double
    | some first =>
      if first = '-' && alone then layout.blockEntry
      else if first = '?' && (layout.inFlow || alone) then layout.explicitKey
      else if first = ':' && (layout.inFlow || alone) then layout.value
      else if first = '|' && !layout.inFlow then layout.blockScalar false
      else if first = '>' && !layout.inFlow then layout.blockScalar true
      else if startsPlain layout.inFlow cursor.rest then layout.plainScalar
      else none
    | none => none

/-- Read all tokens. -/
def finish : Nat → Layout → Option (List Token)
  | 0, _ => none
  | fuel + 1, layout => do
    let reached ← (layout.toNextToken (layout.cursor.rest.length + 1)).dropStaleKeys
    let closed := reached.closeBlocks reached.cursor.column
    if closed.cursor.rest.isEmpty then return (← (closed.closeBlocks (-1)).dropKey).tokens
    else (← closed.next).finish fuel

end Layout

/-- The tokens of a text, if it is made of allowed characters and its marks stand
where they may. -/
def tokens? (text : List Char) : Option (List Token) :=
  if text.all isAllowed then (Layout.start text).finish (text.length + 1) else none

end BenchFigures.Yaml
