import BenchFigures.Text.Pieces

/-!
# Paths

A path is the text that names a file. Joining two paths only concatenates their
texts; nothing is normalized, so messages show a path as it was put together.
What a path means is read off its components, in which repeated slashes and
inner dots leave no trace: two paths are the same if their components are.
-/

namespace BenchFigures

/-- A path, as text. -/
structure Path where
  text : String
  deriving DecidableEq, Repr

namespace Path

/-- One step of a path. -/
inductive Component where
  /-- The leading slash of an absolute path. -/
  | root
  /-- The leading dot of a relative path. -/
  | here
  /-- Two dots: the directory above. -/
  | above
  /-- An entry of the directory reached so far. -/
  | name (text : String)
  deriving DecidableEq, Repr

/-- Whether a path starts at the root directory. -/
def isAbsolute (path : Path) : Bool := path.text.toList.head? = some '/'

/-- Whether a path ends with a slash. -/
def endsWithSlash (path : Path) : Bool := path.text.toList.getLast? = some '/'

/-- A path below another. An absolute second path replaces the first; otherwise a
slash goes between, unless the first is empty or ends with one. -/
def join (first second : Path) : Path :=
  if second.isAbsolute then second
  else if first.text = "" || first.endsWithSlash then ⟨first.text ++ second.text⟩
  else ⟨first.text ++ "/" ++ second.text⟩

/-- The entry of a given name in the directory at a path. -/
def child (directory : Path) (name : String) : Path := directory.join ⟨name⟩

/-- The pieces between slashes, empty ones included. -/
def pieces (path : Path) : List String :=
  (Text.pieces '/' path.text.toList).map String.ofList

/-- The components. Empty pieces and dots count only at the very start, as the
root and as the leading dot. -/
def components (path : Path) : List Component :=
  let named := path.pieces.filterMap fun piece =>
    if piece = "" || piece = "." then none
    else if piece = ".." then some .above
    else some (.name piece)
  if path.isAbsolute then .root :: named
  else if path.pieces.head? = some "." then .here :: named
  else named

/-- Whether two paths have the same components. -/
def same (first second : Path) : Bool := first.components = second.components

/-- The name of the file a path leads to, if its last component is a name. -/
def fileName? (path : Path) : Option String :=
  match path.components.getLast? with
  | some (.name text) => some text
  | _ => none

/-- The text after the last dot of a file name. A name without a dot, or with none
but at its start, has no extension. -/
def extensionOf? (name : String) : Option String :=
  let reversed := name.toList.reverse
  let extension := (reversed.takeWhile (· ≠ '.')).reverse
  let stem := (reversed.dropWhile (· ≠ '.')).drop 1
  if name = ".." || stem.isEmpty then none else some (String.ofList extension)

/-- The extension of the file name. -/
def extension? (path : Path) : Option String := path.fileName?.bind extensionOf?

end Path

end BenchFigures
