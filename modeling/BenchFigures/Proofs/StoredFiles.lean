import BenchFigures.Proofs.FileTrees
import BenchFigures.Proofs.Traversals

/-!
# Trees after files are stored

Storing files removes nothing and makes no directory. So every path that led somewhere
still leads there, a directory that no file was stored in is listed as before, and a file
that was not stored over is found as before.

Which files there are after several were stored, and in which order they are listed, is
settled by the files stored last at each location. So storing the same files once more
changes nothing, also where some of them share a location.
-/

namespace BenchFigures.FileTree

/-- Files stored one after the other. -/
def storeAll (tree : FileTree) (files : List (Location × Content)) : FileTree :=
  files.foldl (fun stored file => stored.put file.1 (.file file.2)) tree

/-- Locations where files can be stored: below the root, in names that entries can have, and
not where a directory is. -/
def ArePlaces (tree : FileTree) (files : List (Location × Content)) : Prop :=
  ∀ file ∈ files, file.1.all isEntryName ∧ file.1 ≠ [] ∧ tree.entry? file.1 ≠ some .directory

/-! ### What is found -/

/-- The content stored last at a location. -/
def lastStored : List (Location × Content) → Location → Option Content
  | [], _ => none
  | file :: rest, location =>
    match lastStored rest location with
    | some content => some content
    | none => if location = file.1 then some file.2 else none

/-- Something was stored at a location if one of the files is there. -/
theorem lastStored_eq_none_iff (files : List (Location × Content)) (location : Location) :
    lastStored files location = none ↔ ∀ file ∈ files, file.1 ≠ location := by
  induction files with
  | nil => simp [lastStored]
  | cons file rest inductionHypothesis =>
    rw [lastStored, List.forall_mem_cons, ← inductionHypothesis]
    cases lastStored rest location with
    | none => simp [eq_comm]
    | some content => simp

/-- Where files were stored there is the last of them, and what was there before elsewhere. -/
theorem lookup_storeAll {tree : FileTree} {files : List (Location × Content)}
    (named : ∀ file ∈ files, file.1.all isEntryName) (location : Location) :
    (tree.storeAll files).entries.lookup location =
      match lastStored files location with
      | some content => some (.file content)
      | none => tree.entries.lookup location := by
  induction files generalizing tree with
  | nil => rfl
  | cons file rest inductionHypothesis =>
    obtain ⟨namedHere, namedRest⟩ := List.forall_mem_cons.1 named
    have stored : (tree.put file.1 (.file file.2)).entries.lookup location =
        if location = file.1 then some (.file file.2) else tree.entries.lookup location := by
      rw [put, dif_pos namedHere]
      exact lookup_putIn tree.entries file.1 location (.file file.2)
    have further := @inductionHypothesis (tree.put file.1 (.file file.2)) namedRest
    rw [storeAll, List.foldl_cons]
    rw [storeAll, stored] at further
    rw [further, lastStored]
    cases lastStored rest location with
    | some content => rfl
    | none => by_cases here : location = file.1 <;> simp [here]

/-- The same below the root, where files are. -/
theorem entry_storeAll {tree : FileTree} {files : List (Location × Content)}
    (places : tree.ArePlaces files) (location : Location) :
    FileTree.entry? (tree.storeAll files) location =
      match lastStored files location with
      | some content => some (.file content)
      | none => tree.entry? location := by
  cases location with
  | nil =>
    have none : lastStored files [] = none :=
      (lastStored_eq_none_iff files []).2 fun file member => (places file member).2.1
    rw [none]
    rfl
  | cons first rest => exact lookup_storeAll (fun file member => (places file member).1) _

/-- Where no file is stored everything is as before. -/
theorem entry_storeAll_of_ne {tree : FileTree} {files : List (Location × Content)}
    (places : tree.ArePlaces files) {location : Location}
    (elsewhere : ∀ file ∈ files, file.1 ≠ location) :
    FileTree.entry? (tree.storeAll files) location = tree.entry? location := by
  rw [entry_storeAll places, (lastStored_eq_none_iff files location).2 elsewhere]

/-- Storing files makes no directory and removes none. -/
theorem directory_storeAll_iff {tree : FileTree} {files : List (Location × Content)}
    (places : tree.ArePlaces files) (location : Location) :
    FileTree.entry? (tree.storeAll files) location = some .directory ↔
      tree.entry? location = some .directory := by
  rw [entry_storeAll places]
  cases stored : lastStored files location with
  | none => rfl
  | some content =>
    have free : tree.entry? location ≠ some .directory := by
      intro inside
      have absent : ∀ file ∈ files, file.1 ≠ location := by
        rintro file member rfl
        exact (places file member).2.2 inside
      rw [(lastStored_eq_none_iff files location).2 absent] at stored
      simp at stored
    simp [free]

/-- Storing files removes nothing. -/
theorem isSome_storeAll {tree : FileTree} {files : List (Location × Content)}
    (places : tree.ArePlaces files) (location : Location)
    (present : Option.isSome (tree.entry? location)) :
    Option.isSome (FileTree.entry? (tree.storeAll files) location) := by
  rw [entry_storeAll places]
  cases lastStored files location with
  | none => exact present
  | some content => rfl

/-! ### Where paths lead -/

section Leading

variable {tree : FileTree} {files : List (Location × Content)}

/-- A step still leads where it led. -/
theorem step_storeAll (places : tree.ArePlaces files) {start next : Location} {piece : String}
    (taken : tree.step start piece = .ok next) :
    (tree.storeAll files).step start piece = .ok next := by
  rw [step] at taken ⊢
  have outside : tree.entry? start = some .directory := by
    split at taken
    · simp at taken
    · simp at taken
    · assumption
  rw [outside] at taken
  rw [(directory_storeAll_iff places start).2 outside]
  simp only at taken ⊢
  split_ifs at taken ⊢ with idle up long
  · exact taken
  · exact taken
  · cases present : tree.entry? (start ++ [piece]) with
    | none => simp [present] at taken
    | some entry =>
      have still := isSome_storeAll places (start ++ [piece]) (by simp [present])
      obtain ⟨stored, there⟩ := Option.isSome_iff_exists.1 still
      rw [there]
      simpa [present] using taken

/-- A walk still leads where it led. -/
theorem walk_storeAll (places : tree.ArePlaces files) {start finish : Location}
    {pieces : List String} (followed : tree.walk start pieces = .ok finish) :
    (tree.storeAll files).walk start pieces = .ok finish := by
  induction pieces generalizing start with
  | nil => exact followed
  | cons piece rest inductionHypothesis =>
    rw [walk] at followed ⊢
    obtain ⟨next, taken, onwards⟩ := (bind_eq_ok_iff _ _ _).1 followed
    exact (bind_eq_ok_iff _ _ _).2 ⟨next, step_storeAll places taken, inductionHypothesis onwards⟩

/-- A path still leads where it led. -/
theorem resolve_storeAll (places : tree.ArePlaces files) {working location : Location} {path : Path}
    (reached : tree.resolve working path = .ok location) :
    (tree.storeAll files).resolve working path = .ok location := by
  rw [resolve] at reached ⊢
  obtain ⟨_, guarded, followed⟩ := (bind_eq_ok_iff _ _ _).1 reached
  exact (bind_eq_ok_iff _ _ _).2 ⟨(), guarded, walk_storeAll places followed⟩

/-- A path leads to the same place for a file. -/
theorem target_storeAll_iff (places : tree.ArePlaces files) (working : Location) (path : Path)
    (location : Location) :
    (tree.storeAll files).target working path = .ok location ↔
      tree.target working path = .ok location := by
  constructor
  · exact target_mono (directory_storeAll_iff places)
  · exact target_mono fun place => (directory_storeAll_iff places place).symm

/-! ### What is seen -/

/-- What is not stored over is found as before. -/
theorem find_storeAll (places : tree.ArePlaces files) {working location : Location} {path : Path}
    (reached : tree.resolve working path = .ok location)
    (elsewhere : ∀ file ∈ files, file.1 ≠ location) :
    (tree.storeAll files).find working path = tree.find working path := by
  rw [find, find, reached, resolve_storeAll places reached]
  simp only [bind, Except.bind, entry_storeAll_of_ne places elsewhere]

/-- A list of entries that is filtered for others is the same after an entry was put. -/
theorem filterMap_putIn {α : Type} {keep : Location × Entry → Option α} {location : Location}
    (ignored : ∀ entry, keep (location, entry) = none) (entries : List (Location × Entry))
    (entry : Entry) : (putIn entries location entry).filterMap keep = entries.filterMap keep := by
  induction entries with
  | nil => simp [putIn, ignored]
  | cons first rest inductionHypothesis =>
    obtain ⟨place, old⟩ := first
    rw [putIn]
    split
    · next same =>
      subst same
      simp [ignored]
    · rw [List.filterMap_cons, List.filterMap_cons, inductionHypothesis]

/-- A directory that no file is stored in holds what it held, in the same order. -/
theorem children_storeAll {directory : Location}
    (outside : ∀ file ∈ files, ∀ name, file.1 ≠ directory ++ [name]) :
    (tree.storeAll files).children directory = tree.children directory := by
  induction files generalizing tree with
  | nil => rfl
  | cons file rest inductionHypothesis =>
    obtain ⟨outsideHere, outsideRest⟩ := List.forall_mem_cons.1 outside
    have put : (tree.put file.1 (.file file.2)).children directory = tree.children directory := by
      rw [FileTree.put]
      split
      · apply filterMap_putIn
        intro entry
        cases last : file.1.getLast? with
        | none => simp [last]
        | some name =>
          obtain ⟨above, whole⟩ := List.getLast?_eq_some_iff.1 last
          have different : above ≠ directory := by
            rintro rfl
            exact outsideHere name whole
          simp [whole, different]
      · rfl
    have further := @inductionHypothesis (tree.put file.1 (.file file.2)) outsideRest
    rw [storeAll, List.foldl_cons]
    exact further.trans put

/-- A directory that no file is stored in is listed as before. -/
theorem list_storeAll (places : tree.ArePlaces files) {working directory : Location} {path : Path}
    {entries : List (String × Entry)} (reached : tree.resolve working path = .ok directory)
    (outside : ∀ file ∈ files, ∀ name, file.1 ≠ directory ++ [name])
    (listed : tree.list working path = .ok entries) :
    (tree.storeAll files).list working path = .ok entries := by
  rw [list, reached] at listed
  rw [list, resolve_storeAll places reached]
  simp only [bind, Except.bind] at listed ⊢
  split at listed
  · next inside =>
    rw [(directory_storeAll_iff places directory).2 inside]
    simpa only [children_storeAll outside] using listed
  · simp at listed
  · simp at listed

end Leading

/-- A path whose last piece can be the name of an entry leads to a file exactly if it leads to
a place for a file where one is. -/
theorem isFile_iff_holds (tree : FileTree) (working : Location) {path : Path} {before : List String}
    {name : String} (cut : path.pieces = before ++ [name]) (named : isEntryName name) :
    tree.isFile working path = true ↔ ∃ content, tree.Holds working path content := by
  constructor
  · intro isFile
    rw [FileTree.isFile] at isFile
    split at isFile
    · next content found =>
      rw [find] at found
      obtain ⟨location, reached, stored⟩ := (bind_eq_ok_iff _ _ _).1 found
      rw [resolve, cut] at reached
      obtain ⟨_, guarded, followed⟩ := (bind_eq_ok_iff _ _ _).1 reached
      rw [walk_append] at followed
      obtain ⟨parent, leads, final⟩ := (bind_eq_ok_iff _ _ _).1 followed
      obtain ⟨_, taken, ended⟩ := (bind_eq_ok_iff _ _ _).1 final
      obtain rfl := Except.ok.inj ended
      obtain ⟨inside, short, -, rfl⟩ := (step_eq_ok_iff tree parent _ named).1 taken
      have own : tree.entry? (parent ++ [name]) = some (.file content) := by
        split at stored
        · next entry present => rw [present, Except.ok.inj stored]
        · simp at stored
      refine ⟨content, parent ++ [name], (target_eq_ok_iff tree working path _).2
        ⟨guarded, before, name, parent, cut, named, short, ⟨leads, inside⟩, ?_, rfl⟩, own⟩
      simp [own]
    · simp at isFile
  · rintro ⟨content, holds⟩
    have read := holds.read
    rw [FileTree.read] at read
    obtain ⟨entry, found, own⟩ := (bind_eq_ok_iff _ _ _).1 read
    rw [FileTree.isFile, found]
    cases entry with
    | directory => simp at own
    | file other => rfl

/-- Whether such a path leads to a file is as before if no file was stored there. -/
theorem isFile_storeAll {tree : FileTree} {files : List (Location × Content)}
    (places : tree.ArePlaces files) {working : Location} {path : Path} {before : List String}
    {name : String} (cut : path.pieces = before ++ [name]) (named : isEntryName name)
    (elsewhere : ∀ file ∈ files, tree.target working path ≠ .ok file.1) :
    (tree.storeAll files).isFile working path = tree.isFile working path := by
  rw [Bool.eq_iff_iff, isFile_iff_holds _ _ cut named, isFile_iff_holds _ _ cut named]
  refine exists_congr fun content => exists_congr fun location => ?_
  rw [target_storeAll_iff places]
  refine and_congr_right fun reached => ?_
  rw [entry_storeAll_of_ne places]
  rintro file member rfl
  exact elsewhere file member reached

/-! ### Storing again -/

/-- Storing over an entry keeps the order of entries. -/
theorem locations_putIn {entries : List (Location × Entry)} {location : Location}
    (present : location ∈ entries.map Prod.fst) (entry : Entry) :
    (putIn entries location entry).map Prod.fst = entries.map Prod.fst := by
  induction entries with
  | nil => simp at present
  | cons first rest inductionHypothesis =>
    obtain ⟨place, old⟩ := first
    rw [putIn]
    split
    · next same => simp [same]
    · next different =>
      have inRest := List.mem_of_ne_of_mem (Ne.symm different) present
      rw [List.map_cons, List.map_cons, inductionHypothesis inRest]

/-- Entries at the same locations, all different, are the same if the same is found at each. -/
theorem entries_eq_of_lookup {entries others : List (Location × Entry)}
    (different : (entries.map Prod.fst).Nodup)
    (locations : entries.map Prod.fst = others.map Prod.fst)
    (same : ∀ location, entries.lookup location = others.lookup location) : entries = others := by
  induction entries generalizing others with
  | nil => exact (List.map_eq_nil_iff.1 locations.symm).symm
  | cons first rest inductionHypothesis =>
    obtain ⟨⟨place, other⟩, otherRest, rfl, samePlace, sameRest⟩ :=
      List.map_eq_cons_iff.1 locations.symm
    obtain ⟨own, entry⟩ := first
    obtain rfl : place = own := samePlace
    rw [List.map_cons, List.nodup_cons] at different
    have here := same place
    rw [lookup_entry, lookup_entry, if_pos rfl, if_pos rfl] at here
    have onward := inductionHypothesis different.2 sameRest.symm
    rw [Option.some.inj here, onward]
    intro location
    by_cases again : location = place
    · -- The first location does not occur again, so nothing else is found there.
      have absent (list : List (Location × Entry)) (free : place ∉ list.map Prod.fst) :
          list.lookup place = none := by
        rw [List.lookup_eq_none_iff]
        rintro ⟨found, _⟩ member
        have differs : place ≠ found := by
          rintro rfl
          exact free (List.mem_map_of_mem member)
        simpa using differs
      rw [again, absent rest different.1, absent otherRest (sameRest ▸ different.1)]
    · have elsewhere := same location
      rwa [lookup_entry, lookup_entry, if_neg again, if_neg again] at elsewhere

/-- After files were stored there is an entry at the location of each. -/
theorem mem_locations_storeAll {tree : FileTree} {files : List (Location × Content)}
    (named : ∀ file ∈ files, file.1.all isEntryName) :
    ∀ file ∈ files, file.1 ∈ (tree.storeAll files).entries.map Prod.fst := by
  intro file member
  have found := @lookup_storeAll tree files named file.1
  cases stored : lastStored files file.1 with
  | none => exact absurd rfl ((lastStored_eq_none_iff files file.1).1 stored file member)
  | some content =>
    rw [stored] at found
    obtain ⟨before, after, split, -⟩ := List.lookup_eq_some_iff.1 found
    simp [split]

/-- Storing over entries keeps their order. -/
theorem locations_storeAll {tree : FileTree} {files : List (Location × Content)}
    (present : ∀ file ∈ files, file.1 ∈ tree.entries.map Prod.fst) :
    (tree.storeAll files).entries.map Prod.fst = tree.entries.map Prod.fst := by
  induction files generalizing tree with
  | nil => rfl
  | cons file rest inductionHypothesis =>
    obtain ⟨presentHere, presentRest⟩ := List.forall_mem_cons.1 present
    have named := tree.locations_named file.1 presentHere
    have put : (tree.put file.1 (.file file.2)).entries.map Prod.fst =
        tree.entries.map Prod.fst := by
      rw [FileTree.put, dif_pos named]
      exact locations_putIn presentHere _
    have further := @inductionHypothesis (tree.put file.1 (.file file.2)) (put ▸ presentRest)
    rw [storeAll, List.foldl_cons]
    exact further.trans put

/-- Trees with the same entries in the same order are the same. -/
theorem ext_entries {tree other : FileTree} (same : tree.entries = other.entries) :
    tree = other := by
  obtain ⟨entries, _, _⟩ := tree
  obtain ⟨others, _, _⟩ := other
  obtain rfl : entries = others := same
  rfl

/-- Storing the same files once more changes nothing. -/
theorem storeAll_storeAll {tree : FileTree} {files : List (Location × Content)}
    (named : ∀ file ∈ files, file.1.all isEntryName) :
    (tree.storeAll files).storeAll files = tree.storeAll files := by
  have present := @mem_locations_storeAll tree files named
  have locations := locations_storeAll present
  apply ext_entries
  apply entries_eq_of_lookup (locations ▸ (tree.storeAll files).locations_nodup) locations
  intro location
  rw [lookup_storeAll named, lookup_storeAll named]
  cases lastStored files location <;> rfl

end BenchFigures.FileTree
