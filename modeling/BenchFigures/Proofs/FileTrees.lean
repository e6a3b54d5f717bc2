import BenchFigures.Proofs.Paths

/-!
# Looking into file trees

A path below another leads to a location below the other's, one step for each name.
A file is created or replaced only at a location in a directory that exists, and
doing so changes nothing elsewhere. In particular it makes and removes no
directory, so that every path leads to the same place for files as before.
-/

namespace BenchFigures.FileTree

/-! ### Entries -/

/-- What is below the root is found by names that entries can have. -/
theorem named_of_entry {tree : FileTree} {location : Location} {entry : Entry}
    (found : tree.entry? location = some entry) : location.all isEntryName := by
  cases location with
  | nil => rfl
  | cons first rest =>
    refine tree.locations_named _ (List.mem_map.2 ⟨(first :: rest, entry), ?_, rfl⟩)
    obtain ⟨before, after, split, -⟩ := List.lookup_eq_some_iff.1 found
    simp [split]

/-- The first of some entries is found at its location, the others elsewhere. -/
theorem lookup_entry (place other : Location) (entry : Entry) (rest : List (Location × Entry)) :
    ((place, entry) :: rest).lookup other =
      if other = place then some entry else rest.lookup other := by
  by_cases same : other = place
  · simp [same]
  · have differs : (other == place) = false := by simpa using same
    simp [List.lookup_cons, differs, same]

/-- Putting an entry changes what is found at its location and nowhere else. -/
theorem lookup_putIn (entries : List (Location × Entry)) (location other : Location)
    (entry : Entry) :
    (putIn entries location entry).lookup other =
      if other = location then some entry else entries.lookup other := by
  induction entries with
  | nil => rw [putIn, lookup_entry]
  | cons first rest inductionHypothesis =>
    obtain ⟨place, old⟩ := first
    rw [putIn]
    by_cases replaced : place = location
    · rw [if_pos replaced, lookup_entry, lookup_entry, replaced]
      split <;> rfl
    · rw [if_neg replaced, lookup_entry, lookup_entry, inductionHypothesis]
      by_cases here : other = place
      · simp [here, replaced]
      · simp [here]

/-- After an entry is put below the root, it is what is found at its location, and
everything else is as before. -/
theorem entry_put (tree : FileTree) {location : Location} (entry : Entry)
    (named : location.all isEntryName) (below : location ≠ []) (other : Location) :
    FileTree.entry? (tree.put location entry) other =
      if other = location then some entry else tree.entry? other := by
  rw [put, dif_pos named]
  cases other with
  | nil => simp [Ne.symm below, entry?]
  | cons first rest => exact lookup_putIn tree.entries location (first :: rest) entry

/-- What a directory holds are the entries one step below it. -/
theorem mem_children (tree : FileTree) (directory : Location) (name : String) (entry : Entry) :
    (name, entry) ∈ tree.children directory ↔ (directory ++ [name], entry) ∈ tree.entries := by
  rw [children, List.mem_filterMap]
  constructor
  · rintro ⟨⟨location, found⟩, member, kept⟩
    cases last : location.getLast? with
    | none => simp [last] at kept
    | some final =>
      obtain ⟨inside, rfl, rfl⟩ : location.dropLast = directory ∧ final = name ∧ found = entry := by
        simpa [last] using kept
      have whole : location = location.dropLast ++ [final] := by
        obtain ⟨start, rfl⟩ := List.getLast?_eq_some_iff.1 last
        simp
      rw [← inside, ← whole]
      exact member
  · intro member
    exact ⟨(directory ++ [name], entry), member, by simp⟩

/-- What a directory holds has names that entries can have. -/
theorem named_of_mem_children {tree : FileTree} {directory : Location} {name : String}
    {entry : Entry} (member : (name, entry) ∈ tree.children directory) : isEntryName name := by
  have below := (mem_children tree directory name entry).1 member
  have named := tree.locations_named (directory ++ [name]) (List.mem_map_of_mem below)
  simpa using (List.all_eq_true.1 named) name (by simp)

/-- What is listed at a path has names that entries can have. -/
theorem named_of_mem_list {tree : FileTree} {working : Location} {path : Path}
    {entries : List (String × Entry)} (listed : tree.list working path = .ok entries)
    {name : String} {entry : Entry} (member : (name, entry) ∈ entries) : isEntryName name := by
  rw [list] at listed
  cases resolved : tree.resolve working path with
  | error fault => simp [resolved, bind, Except.bind] at listed
  | ok place =>
    simp only [resolved, bind, Except.bind] at listed
    split at listed
    · obtain rfl : tree.children place = entries := by simpa using listed
      exact named_of_mem_children member
    · simp at listed
    · simp at listed

/-! ### Walks -/

/-- Following two lists of pieces is following one and then the other. -/
theorem walk_append (tree : FileTree) (start : Location) (first second : List String) :
    tree.walk start (first ++ second) =
      (tree.walk start first).bind fun middle => tree.walk middle second := by
  induction first generalizing start with
  | nil => rfl
  | cons piece rest inductionHypothesis =>
    rw [List.cons_append, walk, walk]
    cases tree.step start piece with
    | error fault => rfl
    | ok next => exact inductionHypothesis next

/-- A step by a name leads from a directory to the entry of that name. -/
theorem step_eq_ok_iff (tree : FileTree) (start finish : Location) {name : String}
    (named : isEntryName name) :
    tree.step start name = .ok finish ↔
      tree.entry? start = some .directory ∧ isTooLong name = false ∧
        Option.isSome ( tree.entry? (start ++ [name])) ∧ finish = start ++ [name] := by
  obtain ⟨filled, notHere, notAbove, -⟩ := (isEntryName_iff name).1 named
  rw [step]
  rcases tree.entry? start with _ | _ | content
  · simp
  · cases long : isTooLong name with
    | true => simp [filled, notHere, notAbove]
    | false => cases tree.entry? (start ++ [name]) <;> simp [filled, notHere, notAbove, eq_comm]
  · simp

/-- Following names leads down, one step for each name. -/
theorem walk_names {tree : FileTree} {start finish : Location} {names : List String}
    (named : names.all isEntryName) (followed : tree.walk start names = .ok finish) :
    finish = start ++ names := by
  induction names generalizing start with
  | nil =>
    obtain rfl : start = finish := by simpa [walk] using followed
    simp
  | cons name rest inductionHypothesis =>
    obtain ⟨firstNamed, restNamed⟩ : isEntryName name ∧ rest.all isEntryName := by simpa using named
    rw [walk] at followed
    cases taken : tree.step start name with
    | error fault => simp [taken, bind, Except.bind] at followed
    | ok next =>
      obtain ⟨-, -, -, rfl⟩ := (step_eq_ok_iff tree start next firstNamed).1 taken
      have onwards : tree.walk (start ++ [name]) rest = .ok finish := by
        simpa [taken, bind, Except.bind] using followed
      have further := inductionHypothesis restNamed onwards
      simpa using further

/-- Pieces lead from one location to another that is a directory. -/
def LeadsTo (tree : FileTree) (start : Location) (pieces : List String) (finish : Location) :
    Prop :=
  tree.walk start pieces = .ok finish ∧ tree.entry? finish = some .directory

/-- Only from a directory do pieces lead to a directory. -/
theorem LeadsTo.start_directory {tree : FileTree} {start finish : Location}
    {pieces : List String} (leads : tree.LeadsTo start pieces finish) :
    tree.entry? start = some .directory := by
  obtain ⟨followed, inside⟩ := leads
  cases pieces with
  | nil =>
    obtain rfl : start = finish := by simpa [walk] using followed
    exact inside
  | cons piece rest =>
    rw [walk, step] at followed
    split at followed
    · simp [bind, Except.bind] at followed
    · simp [bind, Except.bind] at followed
    · assumption

/-- A step from one directory to another depends on no more than that both are directories. -/
theorem step_mono {tree other : FileTree}
    (kept : ∀ location, tree.entry? location = some .directory →
      other.entry? location = some .directory)
    {start next : Location} {piece : String} (outside : tree.entry? start = some .directory)
    (inside : tree.entry? next = some .directory) (taken : tree.step start piece = .ok next) :
    other.step start piece = .ok next := by
  have reached := kept next inside
  rw [step, outside] at taken
  rw [step, kept start outside]
  simp only at taken ⊢
  split
  · next idle => rwa [if_pos idle] at taken
  · next moves =>
    rw [if_neg moves] at taken
    split
    · next up => rwa [if_pos up] at taken
    · next down =>
      rw [if_neg down] at taken
      split
      · next long => simp [if_pos long] at taken
      · next short =>
        rw [if_neg short] at taken
        split at taken
        · obtain rfl : start ++ [piece] = next := by simpa using taken
          simp [reached]
        · simp at taken

/-- Where pieces lead depends on no more than which locations are directories. -/
theorem LeadsTo.mono {tree other : FileTree}
    (kept : ∀ location, tree.entry? location = some .directory →
      other.entry? location = some .directory)
    {start finish : Location} {pieces : List String} (leads : tree.LeadsTo start pieces finish) :
    other.LeadsTo start pieces finish := by
  induction pieces generalizing start with
  | nil => exact ⟨leads.1, kept finish leads.2⟩
  | cons piece rest inductionHypothesis =>
    have outside := leads.start_directory
    obtain ⟨followed, inside⟩ := leads
    rw [walk] at followed
    cases taken : tree.step start piece with
    | error fault => simp [taken, bind, Except.bind] at followed
    | ok next =>
      have further : tree.LeadsTo next rest finish :=
        ⟨by simpa [taken, bind, Except.bind] using followed, inside⟩
      -- The rest starts at a directory, so the step leads to one in both trees.
      have same := step_mono kept outside further.start_directory taken
      obtain ⟨followedThere, insideThere⟩ := inductionHypothesis further
      refine ⟨?_, insideThere⟩
      rw [walk, same]
      exact followedThere

/-! ### Where files are created or replaced -/

/-- A path that is not empty and has no slash at its end ends in a piece that is not
empty, and the other way round. -/
theorem getLast?_pieces (path : Path) :
    path.pieces.getLast? = some "" ↔ path.text = "" ∨ path.endsWithSlash := by
  have cut := Text.getLast?_pieces_eq_nil_iff '/' path.text.toList
  simpa [Path.pieces, Path.endsWithSlash, List.getLast?_map] using cut

/-- The pieces of a path have no slash. -/
theorem unslashed_of_mem_pieces {path : Path} {piece : String} (member : piece ∈ path.pieces) :
    '/' ∉ piece.toList := by
  obtain ⟨characters, cut, rfl⟩ := List.mem_map.1 member
  simpa using Text.not_mem_of_mem_pieces cut

/-- No file is created or replaced at the empty path or behind a slash at the end. -/
theorem filled_of_target {tree : FileTree} {working location : Location} {path : Path}
    (reached : tree.target working path = .ok location) : path.pieces.getLast? ≠ some "" := by
  intro last
  have guarded : guardPath path = .ok () := by
    cases passed : guardPath path with
    | ok _ => rfl
    | error fault => simp [target, passed, bind, Except.bind] at reached
  rcases (getLast?_pieces path).1 last with empty | slash
  · simp [guardPath, empty] at guarded
  · -- The slash is refused whatever it comes after.
    rw [target, guarded] at reached
    simp only [bind, Except.bind, slash] at reached
    split at reached
    · simp at reached
    · split at reached
      · simp at reached
      · split at reached <;> simp at reached

/-- The pieces before the last one lead to the directory that a file is created or
replaced in. -/
theorem target_eq_of_pieces (tree : FileTree) (working : Location) {path : Path}
    {before : List String} {name : String} (guarded : guardPath path = .ok ())
    (cut : path.pieces = before ++ [name]) (filled : name ≠ "") (location : Location) :
    tree.target working path = .ok location ↔
      ∃ parent, tree.LeadsTo (origin working path) before parent ∧ name ≠ "." ∧ name ≠ ".." ∧
        isTooLong name = false ∧ tree.entry? (parent ++ [name]) ≠ some .directory ∧
        location = parent ++ [name] := by
  have unfinished : path.endsWithSlash = false := by
    rw [Bool.eq_false_iff]
    intro slash
    have last := (getLast?_pieces path).2 (.inr slash)
    exact filled (by simpa [cut] using last)
  have reversed : path.pieces.reverse.dropWhile (· = "") = name :: before.reverse := by
    simp [cut, filled]
  rw [target, guarded, reversed]
  simp only [List.reverse_reverse, bind, Except.bind, unfinished]
  cases followed : tree.walk (origin working path) before with
  | error fault => simp [LeadsTo, followed]
  | ok parent =>
    rcases inside : tree.entry? parent with _ | _ | content
    · simp [LeadsTo, followed, inside]
    · have leads (other : Location) :
          tree.LeadsTo (origin working path) before other ↔ other = parent := by
        simp only [LeadsTo, followed, Except.ok.injEq]
        constructor
        · rintro ⟨same, -⟩
          exact same.symm
        · rintro rfl
          exact ⟨rfl, inside⟩
      simp only [leads, exists_eq_left, inside]
      by_cases dots : name = "." ∨ name = ".."
      · rcases dots with rfl | rfl <;> simp
      · obtain ⟨notHere, notAbove⟩ := not_or.1 dots
        cases isTooLong name with
        | true => simp [notHere, notAbove]
        | false =>
          rcases tree.entry? (parent ++ [name]) with _ | _ | content <;>
            simp [notHere, notAbove, eq_comm]
    · simp [LeadsTo, followed, inside]

/-- A file is created or replaced in a directory that the path leads to, under the
name that the path ends in, unless that names a directory. -/
theorem target_eq_ok_iff (tree : FileTree) (working : Location) (path : Path)
    (location : Location) :
    tree.target working path = .ok location ↔
      guardPath path = .ok () ∧
        ∃ before name parent, path.pieces = before ++ [name] ∧ isEntryName name ∧
          isTooLong name = false ∧ tree.LeadsTo (origin working path) before parent ∧
          tree.entry? (parent ++ [name]) ≠ some .directory ∧ location = parent ++ [name] := by
  constructor
  · intro reached
    have guarded : guardPath path = .ok () := by
      cases passed : guardPath path with
      | ok _ => rfl
      | error fault => simp [target, passed, bind, Except.bind] at reached
    obtain ⟨before, name, cut⟩ : ∃ before name, path.pieces = before ++ [name] := by
      have listed : path.pieces ≠ [] := by
        simpa [Path.pieces] using Text.pieces_ne_nil '/' path.text.toList
      exact ⟨_, _, (List.dropLast_concat_getLast listed).symm⟩
    have filled : name ≠ "" := by
      rintro rfl
      exact filled_of_target reached (by simp [cut])
    obtain ⟨parent, leads, notHere, notAbove, short, free, whole⟩ :=
      (target_eq_of_pieces tree working guarded cut filled location).1 reached
    have unslashed : '/' ∉ name.toList := @unslashed_of_mem_pieces path name (by simp [cut])
    exact ⟨guarded, before, name, parent, cut,
      (isEntryName_iff name).2 ⟨filled, notHere, notAbove, unslashed⟩, short, leads, free, whole⟩
  · rintro ⟨guarded, before, name, parent, cut, named, short, leads, free, whole⟩
    obtain ⟨filled, notHere, notAbove, -⟩ := (isEntryName_iff name).1 named
    exact (target_eq_of_pieces tree working guarded cut filled location).2
      ⟨parent, leads, notHere, notAbove, short, free, whole⟩

/-- A file is created or replaced below the root, where a directory could not be, at
a location of names. -/
theorem target_spec {tree : FileTree} {working location : Location} {path : Path}
    (reached : tree.target working path = .ok location) :
    location.all isEntryName ∧ location ≠ [] ∧ tree.entry? location ≠ some .directory := by
  obtain ⟨-, before, name, parent, -, named, -, leads, free, rfl⟩ :=
    (target_eq_ok_iff tree working path location).1 reached
  have above := named_of_entry leads.2
  exact ⟨by simp [List.all_append, above, named], by simp, free⟩

/-- Two trees with the same directories have the same places for files. -/
theorem target_mono {tree other : FileTree}
    (same : ∀ location, tree.entry? location = some .directory ↔
      other.entry? location = some .directory)
    {working location : Location} {path : Path}
    (reached : tree.target working path = .ok location) :
    other.target working path = .ok location := by
  obtain ⟨guarded, before, name, parent, cut, named, short, leads, free, whole⟩ :=
    (target_eq_ok_iff tree working path location).1 reached
  have leadsThere := leads.mono fun place => (same place).1
  have freeThere : other.entry? (parent ++ [name]) ≠ some .directory := by
    intro inside
    exact free ((same (parent ++ [name])).2 inside)
  exact (target_eq_ok_iff other working path location).2
    ⟨guarded, before, name, parent, cut, named, short, leadsThere, freeThere, whole⟩

/-! ### Storing files -/

/-- Storing a file where one can be created or replaced changes nothing elsewhere. -/
theorem entry_store {tree : FileTree} {working location : Location} {path : Path}
    (reached : tree.target working path = .ok location) (content : Content) (other : Location) :
    FileTree.entry? (tree.put location (.file content)) other =
      if other = location then some (.file content) else tree.entry? other := by
  obtain ⟨named, below, -⟩ := target_spec reached
  exact entry_put tree (.file content) named below other

/-- Storing a file leaves the places for files where they were. -/
theorem target_store {tree : FileTree} {working location : Location} {path : Path}
    (reached : tree.target working path = .ok location) (content : Content)
    (other : Path) (place : Location) :
    (tree.put location (.file content)).target working other = .ok place ↔
      tree.target working other = .ok place := by
  obtain ⟨-, -, free⟩ := target_spec reached
  have same (spot : Location) :
      FileTree.entry? (tree.put location (.file content)) spot = some .directory ↔
        tree.entry? spot = some .directory := by
    rw [entry_store reached]
    by_cases here : spot = location
    · simp [here, free]
    · simp [here]
  constructor
  · exact target_mono same
  · exact target_mono fun spot => (same spot).symm

/-- The file that a path leads to for writing is there and has a content. -/
def Holds (tree : FileTree) (working : Location) (path : Path) (content : Content) : Prop :=
  ∃ location, tree.target working path = .ok location ∧
    tree.entry? location = some (.file content)

/-- What a file holds is what is read from it. -/
theorem Holds.read {tree : FileTree} {working : Location} {path : Path} {content : Content}
    (holds : tree.Holds working path content) : tree.read working path = .ok content := by
  obtain ⟨location, reached, stored⟩ := holds
  obtain ⟨guarded, before, name, parent, cut, named, short, leads, -, rfl⟩ :=
    (target_eq_ok_iff tree working path location).1 reached
  obtain ⟨followed, inside⟩ := leads
  have final : tree.step parent name = .ok (parent ++ [name]) :=
    (step_eq_ok_iff tree parent _ named).2 ⟨inside, short, by simp [stored], rfl⟩
  have resolved : tree.resolve working path = .ok (parent ++ [name]) := by
    rw [resolve, guarded, cut]
    simp [bind, Except.bind, walk_append, followed, walk, final]
  simp [FileTree.read, find, resolved, stored, bind, Except.bind]

end BenchFigures.FileTree
