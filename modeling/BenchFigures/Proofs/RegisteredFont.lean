import BenchFigures.Proofs.StagedRun

/-!
# The registered font

A process remembers one font, the one it was given last. So a font is not read again as
long as no other one is granted after it: choosing it gives labels whatever became of its
file, and fonts that are refused meanwhile make no difference. Once another font is
granted, the first one is forgotten, and choosing it goes by its file as it is by then.

What each step of a history does to the registered font is said once; what a whole
history does follows by induction on it.
-/

namespace BenchFigures

/-- The workspace with other files in place of its own. -/
def Workspace.withFiles (workspace : Workspace) (tree : FileTree) (working : Location) :
    Workspace :=
  { workspace with tree, working }

/-- Nothing can be read where there are no files. -/
theorem FileTree.exists_fault_of_empty (working : Location) (path : Path) :
    ∃ fault, empty.read working path = .error fault := by
  cases found : empty.find working path with
  | error fault => exact ⟨fault, by rw [FileTree.read, found]; rfl⟩
  | ok entry =>
    obtain ⟨location, -, stored⟩ := (bind_eq_ok_iff _ _ _).1 found
    have directory : entry = .directory := by
      cases location with
      | nil => exact (Except.ok.inj stored).symm
      | cons name rest => simp [empty, entry?] at stored
    exact ⟨.isDirectory, by rw [FileTree.read, found, directory]; rfl⟩

namespace Style

open DrawingLibrary (isOutlineFont)

/-- What happens in a process, as far as fonts go: a style is chosen, or the files change. -/
inductive Happening where
  | choice (font : Option Path)
  | change (tree : FileTree) (working : Location)

section

variable (accepts : List UInt8 → Bool)

/-- The workspace after something happened. -/
def Happening.after (happening : Happening) (workspace : Workspace) : Workspace :=
  match happening with
  | .choice font => ((withFontBy accepts font).run workspace).2
  | .change tree working => workspace.withFiles tree working

/-- The font that a choice of style grants: the given one or else the first known one, if
the choice succeeds. -/
def Happening.granted? (happening : Happening) (workspace : Workspace) : Option Path :=
  match happening with
  | .choice font =>
    match (withFontBy accepts font).result workspace with
    | .ok _ => font <|> knownFonts.find? fun path => workspace.tree.isFile workspace.working path
    | .error _ => none
  | .change _ _ => none

/-- The workspace after a history. -/
def afterAll (workspace : Workspace) : List Happening → Workspace
  | [] => workspace
  | first :: later => afterAll (first.after accepts workspace) later

/-- The fonts that are granted in the course of a history, the first one first. -/
def allGranted (workspace : Workspace) : List Happening → List Path
  | [] => []
  | first :: later =>
    (first.granted? accepts workspace).toList ++ allGranted (first.after accepts workspace) later

/-- Choosing a font gives labels whatever the files are, and is only reported: the file of
the font is not read. -/
def IsKept (path : Path) (workspace : Workspace) : Prop :=
  ∀ tree working, let other := workspace.withFiles tree working
    (withFontBy accepts (some path)).run other = (.ok ⟨true⟩, other.reporting [.chartFont path])

/-- Choosing a font goes by its file: it gives labels if the file can be read and is
accepted, and then the font is registered. Otherwise it fails and changes nothing. -/
def IsReadAnew (path : Path) (workspace : Workspace) : Prop :=
  ∀ tree working, let other := workspace.withFiles tree working
    (withFontBy accepts (some path)).run other =
      match tree.read working path with
      | .error fault => (.error ⟨[.readingFont path], .file fault⟩, other)
      | .ok content =>
        if accepts content.toBytes then
          (.ok ⟨true⟩, { other with font := some (Font.mk path content.toBytes) }.reporting
            [.chartFont path])
        else (.error ⟨[], .invalidFont path⟩, other)

end

/-- The last of the granted fonts is another than that at a path. -/
def IsReplaced (path : Path) (granted : List Path) : Prop :=
  ∃ last ∈ granted.getLast?, last.same path = false

/-! ### What a step does to the registered font -/

/-- A font is registered exactly if it is the same as one that is. -/
theorem isRegistered_eq_same {registered : Option Font} {font : Path}
    (own : isRegistered registered font = true) (path : Path) :
    isRegistered registered path = font.same path := by
  cases registered with
  | none => simp [isRegistered] at own
  | some known =>
    have sameComponents : known.path.components = font.components := of_decide_eq_true own
    simp only [isRegistered, Path.same, sameComponents]

variable {accepts : List UInt8 → Bool}

/-- After something happened, the font that it granted is registered. If it granted none,
the same font is registered as before. -/
theorem isRegistered_after (happening : Happening) (workspace : Workspace) (path : Path) :
    isRegistered (happening.after accepts workspace).font path =
      (happening.granted? accepts workspace).elim (isRegistered workspace.font path)
        (·.same path) := by
  cases happening with
  | change tree working => rfl
  | choice font =>
    simp only [Happening.after, Happening.granted?, Action.result, run_withFontBy]
    cases font <|> knownFonts.find? fun path => workspace.tree.isFile workspace.working path with
    | none => rfl
    | some chosen =>
      rcases registerBy_cases accepts chosen workspace with
        ⟨own, run⟩ | ⟨bytes, run⟩ | ⟨failure, run⟩
      -- The registered path may be another spelling of the chosen one.
      · simp only [run]
        exact isRegistered_eq_same own path
      · simp only [run]
        rfl
      · simp only [run]
        rfl

/-! ### What a history does to it -/

/-- After a history, the font that was granted last is registered. If none was granted, the
same font is registered as before. -/
theorem isRegistered_afterAll (history : List Happening) (workspace : Workspace) (path : Path) :
    isRegistered (afterAll accepts workspace history).font path =
      (allGranted accepts workspace history).getLast?.elim (isRegistered workspace.font path)
        (·.same path) := by
  induction history generalizing workspace with
  | nil => rfl
  | cons first later inductionHypothesis =>
    rw [afterAll, allGranted, inductionHypothesis, isRegistered_after, List.getLast?_append]
    -- What the first step granted is the last font granted only if nothing is granted later.
    cases (allGranted accepts (first.after accepts workspace) later).getLast? with
    | some last => rfl
    | none => cases first.granted? accepts workspace <;> rfl

/-- A registered font stays so during a history exactly if it is not replaced. -/
theorem isRegistered_afterAll_iff {workspace : Workspace} {path : Path}
    (own : isRegistered workspace.font path = true) (history : List Happening) :
    isRegistered (afterAll accepts workspace history).font path = true ↔
      ¬ IsReplaced path (allGranted accepts workspace history) := by
  rw [isRegistered_afterAll, own]
  cases last : (allGranted accepts workspace history).getLast? <;> simp [IsReplaced, last]

/-! ### Choosing a font again -/

/-- Choosing a given font is registering it. -/
theorem run_withFontBy_some (path : Path) (workspace : Workspace) :
    (withFontBy accepts (some path)).run workspace =
      match (registerBy accepts path).run workspace with
      | (.ok _, after) => (.ok ⟨true⟩, after.reporting [.chartFont path])
      | (.error failure, after) => (.error failure, after) :=
  run_withFontBy accepts (some path) workspace

/-- A font that is registered is kept. -/
theorem isKept_of_isRegistered {workspace : Workspace} {path : Path}
    (own : isRegistered workspace.font path = true) : IsKept accepts path workspace := by
  intro tree working other
  have stillOwn : isRegistered other.font path = true := own
  rw [run_withFontBy_some, run_registerBy, if_pos stillOwn]

/-- A font that is not registered is read anew. -/
theorem isReadAnew_of_not_isRegistered {workspace : Workspace} {path : Path}
    (foreign : ¬ isRegistered workspace.font path = true) : IsReadAnew accepts path workspace := by
  intro tree working other
  have stillForeign : ¬ isRegistered other.font path = true := foreign
  have itsFile : other.tree.read other.working path = tree.read working path := rfl
  rw [run_withFontBy_some, run_registerBy, if_neg stillForeign, itsFile]
  cases tree.read working path with
  | error fault => rfl
  | ok content =>
    by_cases valid : accepts content.toBytes
    · simp only [if_pos valid]
    · simp only [if_neg valid]
      rfl

/-- A font that was chosen with success has labels and is registered. -/
theorem isRegistered_of_chosen {path : Path} {workspace : Workspace} {style : Style}
    (chosen : (withFontBy accepts (some path)).result workspace = .ok style) :
    style = ⟨true⟩ ∧
      isRegistered ((withFontBy accepts (some path)).run workspace).2.font path = true := by
  have grants : (Happening.choice (some path)).granted? accepts workspace = some path := by
    simp only [Happening.granted?, chosen]
    rfl
  have registered :
      isRegistered ((Happening.choice (some path)).after accepts workspace).font path =
        path.same path := by
    rw [isRegistered_after, grants]
    rfl
  refine ⟨?_, registered.trans (decide_eq_true rfl)⟩
  rw [Action.result, run_withFontBy_some] at chosen
  rcases run : (registerBy accepts path).run workspace with ⟨failure | _, between⟩
  · simp [run] at chosen
  · rw [run] at chosen
    exact (Except.ok.inj chosen).symm

/-- A font that is kept is not read anew: without any files, one succeeds and the other fails. -/
theorem not_isKept_of_isReadAnew {workspace : Workspace} {path : Path}
    (anew : IsReadAnew accepts path workspace) : ¬ IsKept accepts path workspace := by
  intro kept
  have succeeds := kept .empty []
  obtain ⟨fault, unread⟩ := FileTree.exists_fault_of_empty [] path
  have fails := anew .empty []
  simp only [unread] at fails
  simp [succeeds] at fails

/-- After a font was chosen with success, it is kept as long as the last font that is granted is
no other: whatever became of its file and whatever was refused, choosing it gives labels without
reading the file. Once another font is granted, it is read anew. What is accepted as a font makes
no difference to this. -/
theorem font_kept_iff_not_replaced (accepts : List UInt8 → Bool) (path : Path)
    (before : Workspace) (style : Style)
    (chosen : (withFontBy accepts (some path)).result before = .ok style)
    (history : List Happening) :
    let started := ((withFontBy accepts (some path)).run before).2
    let now := afterAll accepts started history
    let replaced := IsReplaced path (allGranted accepts started history)
    style = ⟨true⟩ ∧ (IsKept accepts path now ↔ ¬ replaced) ∧
      (IsReadAnew accepts path now ↔ replaced) := by
  intro started now replaced
  obtain ⟨labelled, own⟩ := isRegistered_of_chosen chosen
  have stays : isRegistered now.font path = true ↔ ¬ replaced :=
    isRegistered_afterAll_iff own history
  have anew (gone : replaced) : IsReadAnew accepts path now :=
    isReadAnew_of_not_isRegistered fun still => stays.1 still gone
  have kept (spared : ¬ replaced) : IsKept accepts path now :=
    isKept_of_isRegistered (stays.2 spared)
  refine ⟨labelled, ⟨fun keeps gone => ?_, kept⟩, ⟨fun reads => ?_, anew⟩⟩
  · exact not_isKept_of_isReadAnew (anew gone) keeps
  · by_contra spared
    exact not_isKept_of_isReadAnew reads (kept spared)

/-- A font of which all glyphs are empty. -/
def emptyGlyphs : List UInt8 :=
  [0, 1, 0, 0, 0, 5, 0, 64, 0, 2, 0, 16, 99, 109, 97, 112, 0, 0, 0, 0, 0, 0, 0, 92, 0, 0, 0, 44,
   104, 101, 97, 100, 0, 0, 0, 0, 0, 0, 0, 136, 0, 0, 0, 54, 104, 104, 101, 97, 0, 0, 0, 0, 0, 0,
   0, 192, 0, 0, 0, 36, 104, 109, 116, 120, 0, 0, 0, 0, 0, 0, 0, 228, 0, 0, 0, 4, 109, 97, 120,
   112, 0, 0, 0, 0, 0, 0, 0, 232, 0, 0, 0, 6, 0, 0, 0, 1, 0, 3, 0, 1, 0, 0, 0, 12, 0, 4, 0, 32, 0,
   0, 0, 4, 0, 4, 0, 1, 0, 0, 0, 126, 255, 255, 0, 0, 0, 32, 255, 255, 255, 224, 0, 1, 0, 0, 0, 0,
   0, 1, 0, 0, 0, 1, 0, 0, 0, 0, 0, 0, 95, 15, 60, 245, 0, 0, 3, 232, 0, 0, 0, 0, 0, 0, 0, 0, 0, 0,
   0, 0, 0, 0, 0, 0, 0, 0, 0, 0, 1, 244, 3, 32, 0, 0, 0, 8, 0, 2, 0, 0, 0, 0, 0, 0, 0, 1, 0, 0, 3,
   32, 255, 56, 0, 0, 1, 244, 0, 0, 0, 0, 1, 244, 0, 1, 0, 0, 0, 0, 0, 0, 0, 0, 0, 0, 0, 0, 0, 0,
   0, 1, 1, 244, 0, 0, 0, 0, 80, 0, 0, 1, 0, 0]

/-- Two fonts, and a file that is none. -/
def twoFonts : Workspace where
  tree :=
    let entries : List (Location × Entry) :=
      [(["a.ttf"], .file (.plain emptyGlyphs)), (["b.ttf"], .file (.plain emptyGlyphs)),
       (["junk.ttf"], .file (.plain [110, 111]))]
    entries.foldl (fun tree (location, entry) => tree.put location entry) .empty
  working := []
  font := none
  events := []

/-- The first font is kept when its file is gone and another one was refused. After the second
font was granted, it is read anew. -/
theorem font_kept_iff_not_replaced_twoFonts :
    let started := ((withFontBy isOutlineFont (some ⟨"a.ttf"⟩)).run twoFonts).2
    let gone : Happening := .change (twoFonts.tree.remove ["a.ttf"]) []
    (withFontBy isOutlineFont (some ⟨"a.ttf"⟩)).result twoFonts = .ok ⟨true⟩ ∧
      IsKept isOutlineFont ⟨"a.ttf"⟩ (afterAll isOutlineFont started
        [.choice (some ⟨"junk.ttf"⟩), gone, .choice (some ⟨"c.ttf"⟩)]) ∧
      IsReadAnew isOutlineFont ⟨"a.ttf"⟩
        (afterAll isOutlineFont started [.choice (some ⟨"b.ttf"⟩), gone]) := by
  intro started gone
  obtain ⟨style, chosen⟩ : ∃ style,
      (withFontBy isOutlineFont (some ⟨"a.ttf"⟩)).result twoFonts = .ok style :=
    exists_of_isOk (by decide +kernel)
  have law := font_kept_iff_not_replaced isOutlineFont ⟨"a.ttf"⟩ twoFonts style chosen
  have refused : allGranted isOutlineFont started
      [.choice (some ⟨"junk.ttf"⟩), gone, .choice (some ⟨"c.ttf"⟩)] = [] := by decide +kernel
  have second : allGranted isOutlineFont started [.choice (some ⟨"b.ttf"⟩), gone] =
      [⟨"b.ttf"⟩] := by decide +kernel
  refine ⟨(law []).1 ▸ chosen, (law _).2.1.2 ?_, (law _).2.2.2 ?_⟩
  · rw [refused]
    rintro ⟨last, member, -⟩
    simp at member
  · rw [second]
    exact ⟨_, rfl, by decide +kernel⟩

/-- A font that was granted once may be refused later in the same process. -/
theorem not_font_loaded_once :
    ¬ ∀ (path : Path) (before : Workspace) (style : Style) (history : List Happening),
      (withFontBy isOutlineFont (some path)).result before = .ok style →
      (withFontBy isOutlineFont (some path)).result
        (afterAll isOutlineFont ((withFontBy isOutlineFont (some path)).run before).2 history) =
          .ok ⟨true⟩ := by
  intro always
  let gone : Happening := .change (twoFonts.tree.remove ["a.ttf"]) []
  obtain ⟨style, chosen⟩ : ∃ style,
      (withFontBy isOutlineFont (some ⟨"a.ttf"⟩)).result twoFonts = .ok style :=
    exists_of_isOk (by decide +kernel)
  have granted := always ⟨"a.ttf"⟩ twoFonts style [.choice (some ⟨"b.ttf"⟩), gone] chosen
  have refused : ((withFontBy isOutlineFont (some ⟨"a.ttf"⟩)).result
      (afterAll isOutlineFont ((withFontBy isOutlineFont (some ⟨"a.ttf"⟩)).run twoFonts).2
        [.choice (some ⟨"b.ttf"⟩), gone])).isOk = false := by decide +kernel
  rw [granted] at refused
  exact absurd refused (by decide)

end Style

end BenchFigures
