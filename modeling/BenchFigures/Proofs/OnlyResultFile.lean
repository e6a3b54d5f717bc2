import BenchFigures.Proofs.RowFaults
import BenchFigures.Proofs.SameSights
import BenchFigures.Proofs.SummaryTables

/-!
# The only result file of a directory

A name in a directory stands for a result file if it names a file, is a stem that is not
empty followed by the extension of results, and can be looked at under the path of the
directory. Finding succeeds exactly if there is one such name. Otherwise the failure says that
there is none, or lists all of them in order.

Which names stand for result files depends neither on the order of a listing nor on what else
the directory holds. They decide what is found, so nothing else does. The result files of the
variants lie in different directories, so they are different files.
-/

namespace BenchFigures

/-! ### Extensions -/

/-- What comes before the first dot of some characters, and what comes after it. -/
theorem Path.cut_iff {characters before after : List Char} :
    characters.takeWhile (· ≠ '.') = before ∧ characters.dropWhile (· ≠ '.') = '.' :: after ↔
      '.' ∉ before ∧ characters = before ++ '.' :: after := by
  constructor
  · rintro ⟨rfl, rest⟩
    constructor
    · intro dotted
      simpa using List.mem_takeWhile_imp dotted
    · rw [← rest, List.takeWhile_append_dropWhile]
  · rintro ⟨undotted, rfl⟩
    have passed : ∀ character ∈ before, decide (character ≠ '.') = true := by
      intro character member
      rw [decide_eq_true_iff]
      rintro rfl
      exact undotted member
    rw [List.takeWhile_append_of_pos passed, List.dropWhile_append_of_pos passed]
    simp

/-- The extension of a name is what follows its last dot, if something precedes that dot. -/
theorem Path.extensionOf?_eq_some_iff (name extension : String) :
    extensionOf? name = some extension ↔
      name ≠ ".." ∧ '.' ∉ extension.toList ∧
        ∃ stem, stem ≠ "" ∧ name = stem ++ "." ++ extension := by
  simp only [extensionOf?]
  constructor
  · intro found
    split at found
    · simp at found
    · rename_i kept
      simp only [Bool.or_eq_true, decide_eq_true_eq, not_or] at kept
      obtain ⟨notAbove, filled⟩ := kept
      cases dropped : name.toList.reverse.dropWhile (· ≠ '.') with
      | nil =>
        rw [dropped] at filled
        exact absurd rfl filled
      | cons dot stem =>
        have stops := List.head_dropWhile_not (· ≠ '.') (l := name.toList.reverse)
          (by rw [dropped]; exact List.cons_ne_nil _ _)
        simp only [dropped, List.head_cons, decide_eq_false_iff_not, not_not] at stops
        subst stops
        obtain ⟨undotted, whole⟩ := cut_iff.1 ⟨rfl, dropped⟩
        rw [dropped] at filled
        rw [← Option.some.inj found]
        refine ⟨notAbove, ?_, String.ofList stem.reverse, ?_, ?_⟩
        · rwa [String.toList_ofList, List.mem_reverse]
        · simpa using filled
        · apply String.toList_inj.1
          simpa using congrArg List.reverse whole
  · rintro ⟨notAbove, undotted, stem, filled, rfl⟩
    have reversed : (stem ++ "." ++ extension).toList.reverse =
        extension.toList.reverse ++ '.' :: stem.toList.reverse := by simp
    obtain ⟨taken, dropped⟩ := cut_iff.2 ⟨mt List.mem_reverse.1 undotted, reversed⟩
    rw [taken, dropped]
    simp [notAbove, filled]

/-- A result file has a stem before the extension of results. -/
theorem Path.extensionOf?_eq_resultExtension_iff (name : String) :
    extensionOf? name = some resultExtension ↔ ∃ stem, stem ≠ "" ∧ name = stem ++ ".csv" := by
  rw [extensionOf?_eq_some_iff]
  have joined (stem : String) : stem ++ "." ++ resultExtension = stem ++ ".csv" := by
    rw [String.append_assoc]
    rfl
  simp only [joined]
  constructor
  · rintro ⟨-, -, found⟩
    exact found
  · rintro ⟨stem, filled, rfl⟩
    refine ⟨?_, by decide, stem, filled, rfl⟩
    intro above
    have ends := congrArg (fun text => text.toList.getLast?) above
    simp at ends

/-! ### Listings -/

namespace FileTree

/-- The text of a path that can be followed has no character that names cannot have, and is
neither empty nor too long. -/
theorem guardPath_eq_ok_iff (path : Path) :
    guardPath path = .ok () ↔
      '\x00' ∉ path.text.toList ∧ path.text ≠ "" ∧ path.text.utf8ByteSize < 4096 := by
  rw [guardPath]
  split
  · next impossible =>
    rw [List.contains_iff_mem] at impossible
    simp [impossible]
  · next possible =>
    rw [List.contains_iff_mem] at possible
    split
    · next empty => simp [empty]
    · next filled =>
      split
      · next long => simp [long]
      · next short => simp [possible, filled, Nat.lt_of_not_le short]

/-- No name stands twice in a directory. -/
theorem nodup_children (tree : FileTree) (directory : Location) :
    ((tree.children directory).map Prod.fst).Nodup := by
  have below : (((tree.children directory).map Prod.fst).map fun name =>
      directory ++ [name]).Sublist (tree.entries.map Prod.fst) := by
    rw [children]
    induction tree.entries with
    | nil => simp
    | cons first rest inductionHypothesis =>
      obtain ⟨location, entry⟩ := first
      rw [List.filterMap_cons]
      rcases List.eq_nil_or_concat location with rfl | ⟨above, name, rfl⟩
      · exact inductionHypothesis.cons _
      · by_cases inside : above = directory
        · simpa [inside] using inductionHypothesis
        · simpa [inside] using inductionHypothesis.cons _
  exact (below.nodup tree.locations_nodup).of_map

/-- No name is listed twice. -/
theorem nodup_of_list {tree : FileTree} {working : Location} {path : Path}
    {entries : List (String × Entry)} (listed : tree.list working path = .ok entries) :
    (entries.map Prod.fst).Nodup := by
  obtain ⟨location, -, listed⟩ := (bind_eq_ok_iff _ _ _).1 listed
  split at listed
  · obtain rfl := Except.ok.inj listed
    exact nodup_children tree location
  · simp at listed
  · simp at listed

/-- Steps that lead nowhere else stay at a directory. -/
theorem walk_idle {tree : FileTree} {location : Location} {pieces : List String}
    (inside : tree.entry? location = some .directory)
    (idle : ∀ piece ∈ pieces, piece = "" ∨ piece = ".") :
    tree.walk location pieces = .ok location := by
  induction pieces with
  | nil => rfl
  | cons piece rest inductionHypothesis =>
    obtain ⟨here, restIdle⟩ := List.forall_mem_cons.1 idle
    rw [walk, step, inside]
    simp only [if_pos here]
    exact inductionHypothesis restIdle

end FileTree

/-! ### Components -/

namespace Path

/-- The text of a path below another ends with that of the name. -/
theorem text_join (base second : Path) :
    ∃ before, (base.join second).text = before ++ second.text := by
  rw [join]
  split
  · exact ⟨"", by simp⟩
  · split
    · exact ⟨base.text, rfl⟩
    · exact ⟨base.text ++ "/", rfl⟩

/-- The text of a path below another, without the name, does not depend on the name. -/
theorem text_child (base : Path) : ∃ before, ∀ name, isEntryName name →
    (base.child name).text = before ++ name := by
  by_cases joins : base.text = "" ∨ base.endsWithSlash
  · refine ⟨base.text, fun name named => ?_⟩
    rw [child, join_name base named, if_pos joins]
  · refine ⟨base.text ++ "/", fun name named => ?_⟩
    rw [child, join_name base named, if_neg joins]

/-- The pieces of a path are those that lie below it, too, and perhaps an empty one. -/
theorem pieces_eq_stem (path : Path) : ∃ last, path.pieces = path.stem ++ last ∧
    (last = [] ∨ last = [""]) := by
  rw [stem]
  split
  · next ends =>
    obtain ⟨before, pieces⟩ := List.getLast?_eq_some_iff.1 ((FileTree.getLast?_pieces path).2 ends)
    exact ⟨[""], by simp [pieces], .inr rfl⟩
  · exact ⟨[], by simp, .inl rfl⟩

/-- A path below another has its name as a further component. -/
theorem components_join (base : Path) {name : String} (named : isEntryName name) :
    (base.join ⟨name⟩).components = base.components ++ [.name name] := by
  obtain ⟨filled, notHere, notAbove, -⟩ := (isEntryName_iff name).1 named
  obtain ⟨last, pieces, idle⟩ := base.pieces_eq_stem
  have begins : (base.join ⟨name⟩).pieces.head? = some "." ↔ base.pieces.head? = some "." := by
    rw [pieces_join base named, pieces]
    cases base.stem with
    | nil => rcases idle with rfl | rfl <;> simp [notHere]
    | cons first rest => simp
  simp only [components, isAbsolute_join base named, begins]
  have steps : (last.filterMap fun piece =>
      if piece = "" || piece = "." then none
      else if piece = ".." then some Component.above
      else some (.name piece)) = [] := by
    rcases idle with rfl | rfl <;> simp
  have nameStep : ([name].filterMap fun piece =>
      if piece = "" || piece = "." then none
      else if piece = ".." then some Component.above
      else some (.name piece)) = [.name name] := by
    simp [filled, notHere, notAbove]
  rw [pieces_join base named, pieces, List.filterMap_append, List.filterMap_append, steps, nameStep,
    List.append_nil]
  split
  · rfl
  · split <;> rfl

end Path

/-! ### Candidates -/

namespace ResultDirectory

/-- A name among the entries of a directory stands for a result file. -/
structure NamesResult (directory : Path) (entries : List (String × Entry)) (name : String) :
    Prop where
  isFile : ∃ content, (name, .file content) ∈ entries
  extension : ∃ stem, stem ≠ "" ∧ name = stem ++ ".csv"
  /-- The path of the entry can be followed: names have no such character, and a path has less
  than 4096 bytes. -/
  followed : '\x00' ∉ (directory.child name).text.toList ∧
    (directory.child name).text.utf8ByteSize < 4096

/-- An entry that stands for a result file is a candidate. -/
theorem isCandidate_iff (directory : Path) (name : String) (entry : Entry) :
    isCandidate directory name entry ↔
      (∃ content, entry = .file content) ∧ (∃ stem, stem ≠ "" ∧ name = stem ++ ".csv") ∧
        '\x00' ∉ (directory.child name).text.toList ∧
          (directory.child name).text.utf8ByteSize < 4096 := by
  have passed : (FileTree.guardPath (directory.child name)).isOk = true ↔
      FileTree.guardPath (directory.child name) = .ok () := by
    cases FileTree.guardPath (directory.child name) <;> simp [Except.isOk, Except.toBool]
  cases entry with
  | directory => simp [isCandidate]
  | file content =>
    have isFile : ∃ other, Entry.file content = .file other := ⟨content, rfl⟩
    simp only [isCandidate, Bool.true_and, Bool.and_eq_true, decide_eq_true_eq, passed, isFile,
      true_and, Path.extensionOf?_eq_resultExtension_iff, FileTree.guardPath_eq_ok_iff]
    apply and_congr_right
    rintro ⟨stem, -, rfl⟩
    obtain ⟨before, text⟩ := directory.text_join ⟨stem ++ ".csv"⟩
    have named : (directory.child (stem ++ ".csv")).text ≠ "" := by
      rw [Path.child, text]
      simp
    simp [named]

/-- The candidates in a directory are the names that stand for result files. -/
theorem mem_candidates_iff (directory : Path) (entries : List (String × Entry)) (name : String) :
    name ∈ candidates directory entries ↔ NamesResult directory entries name := by
  rw [candidates, List.mem_mergeSort, List.mem_map]
  constructor
  · rintro ⟨⟨name, entry⟩, member, rfl⟩
    obtain ⟨listed, candidate⟩ := List.mem_filter.1 member
    obtain ⟨⟨content, rfl⟩, extension, followed⟩ := (isCandidate_iff _ _ _).1 candidate
    exact ⟨⟨content, listed⟩, extension, followed⟩
  · rintro ⟨⟨content, listed⟩, extension, followed⟩
    refine ⟨(name, .file content), List.mem_filter.2 ⟨listed, ?_⟩, rfl⟩
    exact (isCandidate_iff _ _ _).2 ⟨⟨content, rfl⟩, extension, followed⟩

/-- The candidates are listed in order, and none twice. -/
theorem sortedLT_candidates (directory : Path) {entries : List (String × Entry)}
    (nodup : (entries.map Prod.fst).Nodup) : (candidates directory entries).SortedLT := by
  rw [List.sortedLT_iff_nodup_and_sortedLE]
  constructor
  · apply (List.mergeSort_perm _ _).nodup_iff.2
    exact (List.filter_sublist.map Prod.fst).nodup nodup
  · have sorted : (candidates directory entries).Pairwise fun first second =>
        decide (first ≤ second) = true :=
      List.pairwise_mergeSort (by simpa using fun _ _ _ => le_trans) (by simpa using le_total) _
    simp only [decide_eq_true_eq] at sorted
    exact sorted.sortedLE

/-- The candidates are the same in all listings with the same names of result files. -/
theorem candidates_congr {directory : Path} {entries others : List (String × Entry)}
    (nodup : (entries.map Prod.fst).Nodup) (otherNodup : (others.map Prod.fst).Nodup)
    (same : ∀ name, NamesResult directory entries name ↔ NamesResult directory others name) :
    candidates directory others = candidates directory entries := by
  apply (sortedLT_candidates directory otherNodup).eq_of_mem_iff
    (sortedLT_candidates directory nodup)
  intro name
  rw [mem_candidates_iff, mem_candidates_iff, same]

/-- A file is chosen exactly if it is that of the only candidate. -/
theorem onlyFile_eq_ok_iff_candidates (directory file : Path) (entries : List (String × Entry)) :
    onlyFile directory entries = .ok file ↔
      ∃ name, candidates directory entries = [name] ∧ file = directory.child name := by
  rw [onlyFile]
  split
  · next none => simp [none]
  · next name single => simp [single, eq_comm]
  · next names _ several =>
    simp only [reduceCtorEq, false_iff]
    rintro ⟨name, single, -⟩
    exact several name single

/-- There is a single candidate exactly if one name, and no other, stands for a result file. -/
theorem candidates_eq_singleton_iff (directory : Path) {entries : List (String × Entry)}
    (nodup : (entries.map Prod.fst).Nodup) (name : String) :
    candidates directory entries = [name] ↔
      ∀ other, NamesResult directory entries other ↔ other = name := by
  constructor
  · intro single other
    rw [← mem_candidates_iff, single, List.mem_singleton]
  · intro only
    apply (sortedLT_candidates directory nodup).eq_of_mem_iff
      (List.pairwise_singleton (· < ·) name).sortedLT
    intro other
    rw [mem_candidates_iff, only, List.mem_singleton]

/-- The paths of names that are in order are in order. -/
theorem sortedLT_texts (directory : Path) {names : List String} (sorted : names.SortedLT)
    (named : ∀ name ∈ names, isEntryName name) :
    (names.map fun name => (directory.child name).text).SortedLT := by
  obtain ⟨before, text⟩ := directory.text_child
  have texts : (names.map fun name => (directory.child name).text) =
      names.map fun name => before ++ name :=
    List.map_congr_left fun name member => text name (named name member)
  rw [texts]
  apply List.Pairwise.sortedLT
  apply List.pairwise_map.2
  apply sorted.pairwise.imp
  intro first second less
  rw [String.lt_iff_toList_lt] at less ⊢
  rw [String.toList_append, String.toList_append]
  exact List.append_left_lt less

/-- Without a candidate, finding fails. -/
theorem result_findFile_of_none {directory : Path} {workspace : Workspace}
    {entries : List (String × Entry)}
    (listed : workspace.tree.list workspace.working directory = .ok entries)
    (none : candidates directory entries = []) :
    (findFile directory).result workspace = .error (Cause.noResultFile directory).failure := by
  rw [result_findFile_of_list listed, onlyFile, none]
  rfl

/-- With several candidates, finding fails and tells all their paths. -/
theorem result_findFile_of_several {directory : Path} {workspace : Workspace}
    {entries : List (String × Entry)}
    (listed : workspace.tree.list workspace.working directory = .ok entries)
    (several : 2 ≤ (candidates directory entries).length) :
    (findFile directory).result workspace =
      .error (Cause.severalResultFiles directory
        ((candidates directory entries).map directory.child)).failure := by
  rw [result_findFile_of_list listed, onlyFile]
  split
  · next none => simp [none] at several
  · next single => simp [single] at several
  · rfl

/-- The failure without any candidate names the directory. -/
theorem message_noResultFile (directory : Path) :
    (Cause.noResultFile directory).failure.message = "no .csv file in " ++ directory.text := by
  rw [Failure.message_failure]
  have start : "no ." ++ resultExtension ++ " file in " = "no .csv file in " := by decide
  exact congrArg (· ++ directory.text) start

/-- The failure with several candidates names the directory, their number and all of them. -/
theorem message_severalResultFiles (directory : Path) (names : List String) :
    (Cause.severalResultFiles directory (names.map directory.child)).failure.message =
      "expected exactly one .csv file in " ++ directory.text ++ ", found " ++
        toString names.length ++ ": " ++
        ", ".intercalate (names.map fun name => (directory.child name).text) := by
  have start : "expected exactly one ." ++ resultExtension ++ " file in " =
    "expected exactly one .csv file in " := by decide
  have count : (names.map directory.child).length = names.length := List.length_map _
  have paths : (names.map directory.child).map Path.text =
    names.map fun name => (directory.child name).text := List.map_map
  rw [Failure.message_failure, ← start, ← count, ← paths]
  rfl

/-- A directory that can be listed with the same names of result files in any two workspaces
gives and reports the same in both. -/
theorem findFile_alike_of_names {directory : Path} {workspace other : Workspace}
    {entries others : List (String × Entry)}
    (listed : workspace.tree.list workspace.working directory = .ok entries)
    (otherListed : other.tree.list other.working directory = .ok others)
    (same : ∀ name, NamesResult directory entries name ↔ NamesResult directory others name) :
    (findFile directory).Alike workspace other := by
  have chosen : onlyFile directory others = onlyFile directory entries := by
    rw [onlyFile, onlyFile, candidates_congr (FileTree.nodup_of_list listed)
      (FileTree.nodup_of_list otherListed) same]
  refine ⟨findFile_onlyLooks directory, ?_, ?_⟩
  · rw [result_findFile_of_list listed, result_findFile_of_list otherListed, chosen]
  · have fresh (place : Workspace) : place.fresh.tree = place.tree ∧
      place.fresh.working = place.working ∧ place.fresh.events = [] := ⟨rfl, rfl, rfl⟩
    simp only [Action.reports, run_findFile, fresh, listed, otherListed, chosen]
    cases onlyFile directory entries <;> rfl

/-- The result file of a variant that is found lies in the directory of the variant. -/
theorem components_of_found {directory file : Path} {workspace : Workspace} {variant : Variant}
    (found : (findFile (directory.child variant.directoryName)).result workspace = .ok file) :
    ∃ name, file.components =
      directory.components ++ [.name variant.directoryName, .name name] := by
  obtain ⟨entries, name, content, listed, filtered, rfl⟩ :=
    (result_findFile_eq_ok_iff _ _ _).1 found
  have member := filtered ▸ List.mem_singleton_self (name, Entry.file content)
  have named := FileTree.named_of_mem_list listed (List.mem_filter.1 member).1
  refine ⟨name, ?_⟩
  rw [Path.child, Path.components_join _ named, Path.child,
    Path.components_join _ (named_directoryName variant)]
  simp

/-- What is found in a directory. If it can be listed, a file is found exactly if one name and
no other stands for a result file, and then it is that name in the directory. Otherwise the
failure says that there is none, or it gives the number of such names and the paths of all of
them in order, each once. Any other listing with the same such names, in whatever order and
among whatever else, gives and reports the same.

If the result files of all variants are found, each is directly in the directory of its
variant, and no two of them are the same path. -/
theorem found_iff_only_result (directory : Path) (workspace : Workspace) :
    (∀ entries, workspace.tree.list workspace.working directory = .ok entries →
      (∀ file, (findFile directory).result workspace = .ok file ↔
        ∃ name, (∀ other, NamesResult directory entries other ↔ other = name) ∧
          file = directory.child name) ∧
      (∃ names : List String, names.SortedLT ∧
        (names.map fun name => (directory.child name).text).SortedLT ∧
        (∀ name, name ∈ names ↔ NamesResult directory entries name) ∧
        (names = [] → ∃ failure, (findFile directory).result workspace = .error failure ∧
          failure.message = "no .csv file in " ++ directory.text) ∧
        (2 ≤ names.length → ∃ failure,
          (findFile directory).result workspace = .error failure ∧
          failure.message = "expected exactly one .csv file in " ++ directory.text ++
            ", found " ++ toString names.length ++ ": " ++
            ", ".intercalate (names.map fun name => (directory.child name).text))) ∧
      ∀ other others, other.tree.list other.working directory = .ok others →
        (∀ name, NamesResult directory entries name ↔ NamesResult directory others name) →
        (findFile directory).Alike workspace other) ∧
    ∀ files, (discover directory).result workspace = .ok files →
      (∀ variant,
        (findFile (directory.child variant.directoryName)).result workspace =
          .ok (files.get variant) ∧
        ∃ name, (files.get variant).components =
          directory.components ++ [.name variant.directoryName, .name name]) ∧
      ∀ first second, (files.get first).same (files.get second) → first = second := by
  constructor
  · intro entries listed
    refine ⟨?_, ?_, ?_⟩
    · intro file
      rw [result_findFile_of_list listed, mapError_eq_ok_iff, onlyFile_eq_ok_iff_candidates]
      simp only [candidates_eq_singleton_iff directory (FileTree.nodup_of_list listed)]
    · have sorted := sortedLT_candidates directory (FileTree.nodup_of_list listed)
      have named : ∀ name ∈ candidates directory entries, isEntryName name := by
        intro name member
        obtain ⟨content, inDirectory⟩ := ((mem_candidates_iff _ _ _).1 member).isFile
        exact FileTree.named_of_mem_list listed inDirectory
      refine ⟨candidates directory entries, sorted, sortedLT_texts directory sorted named,
        mem_candidates_iff directory entries, ?_, ?_⟩
      · intro none
        exact ⟨_, result_findFile_of_none listed none, message_noResultFile directory⟩
      · intro several
        exact ⟨_, result_findFile_of_several listed several,
          message_severalResultFiles directory _⟩
    · intro other others otherListed same
      exact findFile_alike_of_names listed otherListed same
  · intro files discovered
    have found variant := (result_findFile_eq_ok_iff _ _ _).2
      ((result_discover_eq_ok_iff directory files workspace).1 discovered variant)
    constructor
    · intro variant
      exact ⟨found variant, components_of_found (found variant)⟩
    · intro first second same
      obtain ⟨name, components⟩ := components_of_found (found first)
      obtain ⟨other, otherComponents⟩ := components_of_found (found second)
      rw [Path.same, decide_eq_true_iff, components, otherComponents] at same
      apply Variant.directoryName_injective
      exact (by simpa using List.append_cancel_left same : _ ∧ _).1

/-- A directory with the results of one level, among them names that only look like those of
result files. -/
def ofLevel : Workspace where
  tree :=
    let text := Content.plain (Text.encode "run,elapsed,deviation\n1,5,0\n".toList)
    let ofVariant (variant : Variant) : List (Location × Entry) :=
      [(["d", variant.directoryName], .directory),
       (["d", variant.directoryName, "runs.csv"], .file text),
       (["d", variant.directoryName, "runs.csv.bak"], .file text)]
    let entries : List (Location × Entry) :=
      [(["d"], .directory), (["d", ".csv"], .file text), (["d", "a.CSV"], .file text),
       (["d", "b.csv"], .file text), (["d", "x.csv"], .directory)] ++
        Variant.all.flatMap ofVariant
    entries.foldl (fun tree (location, entry) => tree.put location entry) .empty
  working := []
  font := none
  events := []

/-- Neither a name that is all extension, nor one in capitals, nor a directory stands for a result
file; `b.csv` does. -/
theorem found_iff_only_result_mixed :
    (findFile ⟨"d"⟩).result ofLevel = .ok ⟨"d/b.csv"⟩ ∧
      ∃ files, (discover ⟨"d"⟩).result ofLevel = .ok files ∧
        ∀ first second, (files.get first).same (files.get second) → first = second := by
  obtain ⟨ofDirectory, ofVariants⟩ := found_iff_only_result ⟨"d"⟩ ofLevel
  obtain ⟨entries, listed, only⟩ : ∃ entries,
      ofLevel.tree.list ofLevel.working ⟨"d"⟩ = .ok entries ∧
        (candidates ⟨"d"⟩ entries == ["b.csv"]) = true :=
    exists_of_any (by decide +kernel)
  obtain ⟨files, discovered⟩ : ∃ files, (discover ⟨"d"⟩).result ofLevel = .ok files :=
    exists_of_isOk (by decide +kernel)
  refine ⟨?_, files, discovered, (ofVariants files discovered).2⟩
  apply ((ofDirectory entries listed).1 _).2
  refine ⟨"b.csv", ?_, by decide +kernel⟩
  apply (candidates_eq_singleton_iff _ (FileTree.nodup_of_list listed) _).1
  exact beq_iff_eq.1 only

/-! ### Files behind long paths -/

/-- The working directory, with slashes after it. -/
def slashed (count : Nat) : Path := ⟨String.ofList ('.' :: List.replicate count '/')⟩

/-- Between slashes there is nothing. -/
theorem pieces_slashed (count : Nat) :
    (slashed count).pieces = "." :: List.replicate count "" := by
  have between : Text.pieces '/' (List.replicate count '/') = List.replicate (count + 1) [] := by
    induction count with
    | zero => rfl
    | succ count inductionHypothesis =>
      rw [List.replicate_succ, Text.pieces, if_pos rfl, inductionHypothesis]
      rfl
  rw [Path.pieces, slashed, String.toList_ofList, Text.pieces, between, if_neg (by decide)]
  simp [List.replicate_succ]

/-- The path has a byte for each slash. -/
theorem utf8ByteSize_slashed (count : Nat) : (slashed count).text.utf8ByteSize = count + 1 := by
  rw [slashed, Text.utf8ByteSize_of_ascii]
  · rw [String.length_ofList, List.length_cons, List.length_replicate]
  · intro character member
    rw [String.toList_ofList, List.mem_cons, List.mem_replicate] at member
    rcases member with rfl | ⟨-, rfl⟩ <;> decide

/-- Slashes after the working directory lead to it, as long as the path can be followed. -/
theorem list_slashed (tree : FileTree) {count : Nat} (short : count < 4095) :
    tree.list [] (slashed count) = .ok (tree.children []) := by
  have guarded : FileTree.guardPath (slashed count) = .ok () := by
    apply (FileTree.guardPath_eq_ok_iff _).2
    refine ⟨?_, ?_, ?_⟩
    · simp [slashed, List.mem_replicate]
    · simp [slashed]
    · rw [utf8ByteSize_slashed]
      omega
  have relative : (slashed count).isAbsolute = false := by simp [slashed, Path.isAbsolute]
  have walked : tree.walk [] (slashed count).pieces = .ok [] := by
    rw [pieces_slashed]
    apply FileTree.walk_idle rfl
    simp [List.mem_replicate]
  rw [FileTree.list, FileTree.resolve, guarded, FileTree.origin, relative]
  simp only [bind, Except.bind, Bool.false_eq_true, if_false, walked]
  rfl

/-- What is below slashes has their bytes and those of its name. -/
theorem utf8ByteSize_child_slashed (count : Nat) {name : String} (named : isEntryName name) :
    count + name.utf8ByteSize < ((slashed count).child name).text.utf8ByteSize := by
  rw [Path.child, Path.join_name _ named]
  split
  · simp only [String.utf8ByteSize_append, utf8ByteSize_slashed]
    omega
  · simp only [String.utf8ByteSize_append, utf8ByteSize_slashed]
    omega

/-- A directory with a single file of the right extension is no guarantee that the file is
found: behind a long path there is no looking at it. -/
theorem not_found_whenever_single :
    ¬ ∀ (directory : Path) (workspace : Workspace) (entries : List (String × Entry)) (file : Path),
      workspace.tree.list workspace.working directory = .ok entries →
      ((findFile directory).result workspace = .ok file ↔
        ∃ name, (∀ other, ((∃ content, (other, .file content) ∈ entries) ∧
            ∃ stem, stem ≠ "" ∧ other = stem ++ ".csv") ↔ other = name) ∧
          file = directory.child name) := by
  intro always
  let workspace : Workspace :=
    { tree := FileTree.empty.put ["a.csv"] (.file (.plain []))
      working := [], font := none, events := [] }
  have listed : workspace.tree.list [] (slashed 4092) = .ok [("a.csv", .file (.plain []))] :=
    list_slashed _ (by decide)
  have single : ∀ other, ((∃ content, (other, Entry.file content) ∈
      [("a.csv", Entry.file (.plain []))]) ∧ ∃ stem, stem ≠ "" ∧ other = stem ++ ".csv") ↔
        other = "a.csv" := by
    intro other
    constructor
    · rintro ⟨⟨content, member⟩, -⟩
      simpa using (Prod.ext_iff.1 (List.mem_singleton.1 member)).1
    · rintro rfl
      exact ⟨⟨_, List.mem_singleton_self _⟩, "a", by decide, by decide⟩
  have found := (always (slashed 4092) workspace _ _ listed).2 ⟨"a.csv", single, rfl⟩
  rw [result_findFile_of_list listed, mapError_eq_ok_iff, onlyFile_eq_ok_iff_candidates] at found
  obtain ⟨name, only, -⟩ := found
  have candidate := (mem_candidates_iff _ _ name).1 (only ▸ List.mem_singleton_self name)
  obtain ⟨content, member⟩ := candidate.isFile
  obtain rfl : name = "a.csv" := (Prod.ext_iff.1 (List.mem_singleton.1 member)).1
  have named : isEntryName "a.csv" := by decide
  have long := utf8ByteSize_child_slashed 4092 named
  have short := candidate.followed.2
  have bytes : "a.csv".utf8ByteSize = 5 := by decide
  omega

end ResultDirectory

end BenchFigures
