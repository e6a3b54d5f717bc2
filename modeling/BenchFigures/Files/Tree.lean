import BenchFigures.Chart.Picture
import BenchFigures.Files.Path

/-!
# File trees

A tree lists what lies below the root directory: directories and files, each at a
location, in the order in which a directory is listed. No location stands twice, and
every step of a location is a name that an entry can have.
A path is resolved step by step from a starting directory; every step but the last
must lead to a directory that exists.

The content of a file is its bytes. Of a picture that was saved, what it shows is kept
beside the bytes of its file.

Links, permissions, and limits on what a disk holds are left out: one location has one
way to it from the root, and a file that is found can be read and replaced.
-/

namespace BenchFigures

/-- Values that are worked out later are equal if they come out equal. -/
instance decidableEqThunk {α : Type} [DecidableEq α] : DecidableEq (Thunk α) := fun first second =>
  decidable_of_iff (first.get = second.get) ⟨Thunk.ext, congrArg Thunk.get⟩

/-- What a file holds. The bytes of a picture are worked out when they are asked for. -/
inductive Content where
  | plain (bytes : List UInt8)
  | picture (bytes : Thunk (List UInt8)) (sheet : Picture)
  deriving DecidableEq

namespace Content

/-- The bytes of a file. -/
def toBytes : Content → List UInt8
  | .plain bytes => bytes
  | .picture bytes _ => bytes.get

end Content

/-- What can be found at a location. -/
inductive Entry where
  | directory
  | file (content : Content)
  deriving DecidableEq

/-- A place in the tree: the names that lead to it from the root. -/
abbrev Location := List String

/-- Why a file cannot be reached. -/
inductive FileFault where
  | notFound
  | notDirectory
  | isDirectory
  /-- The path or one of the names in it has too many bytes. -/
  | nameTooLong
  /-- The path holds a character that no file name can. -/
  | impossibleName
  /-- The bytes of the file are not text. -/
  | notText
  deriving DecidableEq, Repr

/-- Whether an entry can have a text as its name: it is not empty, none of the two
names that every directory holds already, and free of slashes. -/
def isEntryName (text : String) : Bool :=
  text ≠ "" && text ≠ "." && text ≠ ".." && !text.toList.contains '/'

/-- Everything below the root directory. -/
structure FileTree where
  entries : List (Location × Entry)
  locations_nodup : (entries.map Prod.fst).Nodup
  locations_named : ∀ location ∈ entries.map Prod.fst, location.all isEntryName

namespace FileTree

/-- The tree with nothing in it. -/
def empty : FileTree := ⟨[], by simp, by simp⟩

/-- What is at a location. The root is always a directory. -/
def entry? (tree : FileTree) : Location → Option Entry
  | [] => some .directory
  | location => tree.entries.lookup location

/-- Put an entry at a location, in place of what was there. -/
def putIn (entries : List (Location × Entry)) (location : Location) (entry : Entry) :
    List (Location × Entry) :=
  match entries with
  | [] => [(location, entry)]
  | (other, old) :: rest =>
    if other = location then (location, entry) :: rest
    else (other, old) :: putIn rest location entry

/-- Putting an entry adds at most its own location. -/
theorem mem_locations_putIn {entries : List (Location × Entry)} {location other : Location}
    {entry : Entry} :
    other ∈ (putIn entries location entry).map Prod.fst ↔
      other = location ∨ other ∈ entries.map Prod.fst := by
  induction entries with
  | nil => simp [putIn]
  | cons first rest inductionHypothesis =>
    obtain ⟨place, old⟩ := first
    rw [putIn]
    split
    · next same => simp [same]
    · simp only [List.map_cons, List.mem_cons, inductionHypothesis]
      constructor
      · rintro (same | same | inRest)
        · exact .inr (.inl same)
        · exact .inl same
        · exact .inr (.inr inRest)
      · rintro (same | same | inRest)
        · exact .inr (.inl same)
        · exact .inl same
        · exact .inr (.inr inRest)

/-- Putting an entry keeps the locations different. -/
theorem nodup_putIn {entries : List (Location × Entry)} (location : Location) (entry : Entry)
    (different : (entries.map Prod.fst).Nodup) :
    ((putIn entries location entry).map Prod.fst).Nodup := by
  induction entries with
  | nil => simp [putIn]
  | cons first rest inductionHypothesis =>
    obtain ⟨place, old⟩ := first
    simp only [List.map_cons, List.nodup_cons] at different
    rw [putIn]
    split
    · next same =>
      subst same
      simpa only [List.map_cons, List.nodup_cons] using different
    · next distinct =>
      simp only [List.map_cons, List.nodup_cons, mem_locations_putIn, not_or]
      exact ⟨⟨distinct, different.1⟩, inductionHypothesis different.2⟩

/-- Putting an entry at a location of names keeps all locations such. -/
theorem named_putIn {entries : List (Location × Entry)} {location : Location} (entry : Entry)
    (named : location.all isEntryName)
    (others : ∀ other ∈ entries.map Prod.fst, other.all isEntryName) :
    ∀ other ∈ (putIn entries location entry).map Prod.fst, other.all isEntryName := by
  intro other member
  rcases mem_locations_putIn.1 member with same | before
  · exact same ▸ named
  · exact others other before

/-- Put an entry at a location, in place of what was there. A location with a step
that is no name of an entry stays empty. -/
def put (tree : FileTree) (location : Location) (entry : Entry) : FileTree :=
  if named : location.all isEntryName then
    { entries := putIn tree.entries location entry
      locations_nodup := nodup_putIn location entry tree.locations_nodup
      locations_named := named_putIn entry named tree.locations_named }
  else tree

/-- Remove a location and everything below it. -/
def remove (tree : FileTree) (location : Location) : FileTree :=
  { entries := tree.entries.filter fun (other, _) => !location.isPrefixOf other
    locations_nodup := (List.filter_sublist.map Prod.fst).nodup tree.locations_nodup
    locations_named := fun other member =>
      tree.locations_named other ((List.filter_sublist.map Prod.fst).subset member) }

/-- The names in a directory with what they name, in listing order. -/
def children (tree : FileTree) (directory : Location) : List (String × Entry) :=
  tree.entries.filterMap fun (location, entry) =>
    match location.getLast? with
    | some name => if location.dropLast = directory then some (name, entry) else none
    | none => none

/-- Whether a name has more bytes than that of a file can have. -/
def isTooLong (name : String) : Bool := 255 < name.utf8ByteSize

/-- One step from a location, which must be a directory. -/
def step (tree : FileTree) (location : Location) (piece : String) : Except FileFault Location :=
  match tree.entry? location with
  | none => .error .notFound
  | some (.file _) => .error .notDirectory
  | some .directory =>
    if piece = "" ∨ piece = "." then .ok location
    else if piece = ".." then .ok location.dropLast
    else if isTooLong piece then .error .nameTooLong
    else
      match tree.entry? (location ++ [piece]) with
      | some _ => .ok (location ++ [piece])
      | none => .error .notFound

/-- Follow the pieces of a path from a location. -/
def walk (tree : FileTree) (location : Location) : List String → Except FileFault Location
  | [] => .ok location
  | piece :: rest => do
    let next ← tree.step location piece
    tree.walk next rest

/-- Where the walk of a path starts: at the root or at the working directory. -/
def origin (working : Location) (path : Path) : Location := if path.isAbsolute then [] else working

/-- Refuse paths that name nothing or cannot be names. A path has less than 4096
bytes. -/
def guardPath (path : Path) : Except FileFault Unit :=
  if path.text.toList.contains '\x00' then .error .impossibleName
  else if path.text = "" then .error .notFound
  else if 4096 ≤ path.text.utf8ByteSize then .error .nameTooLong
  else .ok ()

/-- The location a path leads to. -/
def resolve (tree : FileTree) (working : Location) (path : Path) : Except FileFault Location := do
  guardPath path
  tree.walk (origin working path) path.pieces

/-- What a path leads to. -/
def find (tree : FileTree) (working : Location) (path : Path) : Except FileFault Entry := do
  let location ← tree.resolve working path
  match tree.entry? location with
  | some entry => .ok entry
  | none => .error .notFound

/-- Whether a path leads to a file. -/
def isFile (tree : FileTree) (working : Location) (path : Path) : Bool :=
  match tree.find working path with
  | .ok (.file _) => true
  | _ => false

/-- The content of the file at a path. -/
def read (tree : FileTree) (working : Location) (path : Path) : Except FileFault Content := do
  match ← tree.find working path with
  | .file content => .ok content
  | .directory => .error .isDirectory

/-- The names in the directory at a path, with what they name. -/
def list (tree : FileTree) (working : Location) (path : Path) :
    Except FileFault (List (String × Entry)) := do
  let location ← tree.resolve working path
  match tree.entry? location with
  | some .directory => .ok (tree.children location)
  | some (.file _) => .error .notDirectory
  | none => .error .notFound

/-- The location at which a file is created or replaced. The directory it is to be
in must exist. What can only be a directory is refused: dots, and a name with a
slash after it, whether or not there is something of that name. -/
def target (tree : FileTree) (working : Location) (path : Path) : Except FileFault Location := do
  guardPath path
  match path.pieces.reverse.dropWhile (· = "") with
  | [] => .error .isDirectory
  | name :: before =>
    let parent ← tree.walk (origin working path) before.reverse
    match tree.entry? parent with
    | none => .error .notFound
    | some (.file _) => .error .notDirectory
    | some .directory =>
      if name = "." ∨ name = ".." ∨ path.endsWithSlash then .error .isDirectory
      else if isTooLong name then .error .nameTooLong
      else
        match tree.entry? (parent ++ [name]) with
        | some .directory => .error .isDirectory
        | _ => .ok (parent ++ [name])

/-- Create or replace a file. -/
def write (tree : FileTree) (working : Location) (path : Path) (content : Content) :
    Except FileFault FileTree := do
  let location ← tree.target working path
  return tree.put location (.file content)

end FileTree

end BenchFigures
