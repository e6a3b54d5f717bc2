import BenchFigures.Chart.Saving
import BenchFigures.Proofs.Actions
import BenchFigures.Proofs.FileTrees

/-!
# What saving leaves behind

Writing a picture touches one file at most, and which content it leaves there follows
from the picture and the name of the file alone. Only a whole picture in a format
that can be written is a success. A drawing that stopped early is written in the same
way, but never a success. One that never comes to an end is not written.
-/

namespace BenchFigures

namespace Workspace

/-- The workspace with a file put at a location. -/
def storing (workspace : Workspace) (location : Location) (content : Content) : Workspace :=
  { workspace with tree := workspace.tree.put location (.file content) }

@[simp] theorem tree_storing (workspace : Workspace) (location : Location) (content : Content) :
    (workspace.storing location content).tree = workspace.tree.put location (.file content) := rfl

@[simp] theorem working_storing (workspace : Workspace) (location : Location) (content : Content) :
    (workspace.storing location content).working = workspace.working := rfl

@[simp] theorem events_storing (workspace : Workspace) (location : Location) (content : Content) :
    (workspace.storing location content).events = workspace.events := rfl

/-- The bytes of the file at a path, if there is a file. -/
def fileBytes? (workspace : Workspace) (path : Path) : Option (List UInt8) :=
  match workspace.tree.read workspace.working path with
  | .ok content => some content.toBytes
  | .error _ => none

/-- The workspace after a content is written to the file at a path. A file that cannot
be created or replaced leaves everything as it is. -/
def afterWriting (workspace : Workspace) (path : Path) (content : Content) : Workspace :=
  match workspace.tree.target workspace.working path with
  | .ok location => workspace.storing location content
  | .error _ => workspace

/-- A file that was just stored holds what was stored. -/
theorem fileBytes?_storing {workspace : Workspace} {path : Path} {location : Location}
    (reached : workspace.tree.target workspace.working path = .ok location) (content : Content) :
    (workspace.storing location content).fileBytes? path = some content.toBytes := by
  have holds : (workspace.storing location content).tree.Holds
      (workspace.storing location content).working path content :=
    ⟨location, (FileTree.target_store reached content path location).2 reached,
      by simp [FileTree.entry_store reached]⟩
  rw [fileBytes?, holds.read]

end Workspace

namespace Action

/-- With some font, an action stores a content in the file at a path, wherever there is a place
for the file, and then reports some events. -/
def Deposits (action : Action Unit) (typeface : Typeface) (path : Path) (content : Content)
    (events : List Event) : Prop :=
  ∀ workspace location, workspace.typeface = typeface →
    workspace.tree.target workspace.working path = .ok location →
    action.run workspace = (.ok (), (workspace.storing location content).reporting events)

namespace Deposits

variable {action : Action Unit} {typeface : Typeface} {path : Path} {content : Content}
  {events : List Event}

/-- Naming the circumstance of a failure changes nothing where there is none. -/
theorem during (deposits : action.Deposits typeface path content events)
    (circumstance : Circumstance) :
    (action.during circumstance).Deposits typeface path content events := by
  intro workspace location sameFont reached
  rw [run_during, result, deposits workspace location sameFont reached]
  rfl

/-- A report after a content was stored is one event more. -/
theorem report (deposits : action.Deposits typeface path content events) (event : Event) :
    Deposits (do action; Action.report event) typeface path content (events ++ [event]) := by
  intro workspace location sameFont reached
  rw [run_bind, deposits workspace location sameFont reached]
  simp

/-- What was stored is what the file holds. -/
theorem fileBytes? {workspace : Workspace} {location : Location}
    (deposits : action.Deposits workspace.typeface path content events)
    (reached : workspace.tree.target workspace.working path = .ok location) :
    (action.run workspace).2.fileBytes? path = some content.toBytes := by
  rw [deposits workspace location rfl reached]
  exact Workspace.fileBytes?_storing reached content

end Deposits

end Action

/-- Writing a file stores its content where the path leads, if it leads anywhere. -/
theorem Action.run_writeFile (path : Path) (content : Content) (workspace : Workspace) :
    (writeFile path content).run workspace =
      ((workspace.tree.target workspace.working path).map fun _ => (),
        workspace.afterWriting path content) := by
  rw [Workspace.afterWriting]
  unfold writeFile
  rw [run_get_bind]
  cases reached : workspace.tree.target workspace.working path with
  | error fault =>
    have lost : workspace.tree.write workspace.working path content = .error fault := by
      rw [FileTree.write, reached]
      rfl
    rw [lost]
    rfl
  | ok location =>
    have kept : workspace.tree.write workspace.working path content =
        .ok (workspace.tree.put location (.file content)) := by
      rw [FileTree.write, reached]
      rfl
    rw [kept]
    rfl

namespace Picture

/-- Creating the file of a picture stores a content in it. -/
theorem run_create (path : Path) (content : Content) (workspace : Workspace) :
    (ExceptT.adapt SavingFault.file (Action.writeFile path content)).run workspace =
      ((workspace.tree.target workspace.working path).map (fun _ => ())
        |>.mapError SavingFault.file, workspace.afterWriting path content) := by
  change ((Action.writeFile path content).run workspace).map (Except.mapError SavingFault.file) id
    = _
  rw [Action.run_writeFile]
  rfl

/-- A content that is stored before writing fails stays in the file. -/
theorem run_create_throw (path : Path) (content : Content) (fault : SavingFault)
    (workspace : Workspace) :
    ∃ other, (do
      ExceptT.adapt SavingFault.file (Action.writeFile path content)
      throw fault : ExceptT SavingFault (StateM Workspace) Unit).run workspace =
        (.error other, workspace.afterWriting path content) := by
  have created := run_create path content workspace
  have run : (do
      ExceptT.adapt SavingFault.file (Action.writeFile path content)
      throw fault : ExceptT SavingFault (StateM Workspace) Unit).run workspace =
      (ExceptT.bindCont (fun _ => throw fault)
        ((ExceptT.adapt SavingFault.file (Action.writeFile path content)).run workspace).1 :
          StateM Workspace (Except SavingFault Unit))
        ((ExceptT.adapt SavingFault.file (Action.writeFile path content)).run workspace).2 := rfl
  rw [run, created]
  cases workspace.tree.target workspace.working path with
  | error missing => exact ⟨.file missing, rfl⟩
  | ok location => exact ⟨fault, rfl⟩

end Picture

section

variable [DrawingLibrary]

namespace Picture

/-- What writing a picture leaves in the file, unless it touches none. -/
def deposit? (picture : Picture) (path : Path) : Option Content :=
  path.extension?.bind fun extension =>
    match Image.recognize extension with
    | .writable .jpeg =>
      if max picture.width picture.height ≤ Image.Jpeg.sizeLimit then some (picture.content .jpeg)
      else some (.plain Image.Jpeg.opening)
    | .writable format => some (picture.content format)
    | .refused _ => some (.plain [])
    | .unknown => none

/-- The content of a file that a picture was completely written to. -/
def IsWhole (picture : Picture) (content : Content) : Prop :=
  ∃ format, content = picture.content format

/-- The workspace after a picture is written to a file, be it written well or not. -/
def written (picture : Picture) (path : Path) (workspace : Workspace) : Workspace :=
  match picture.deposit? path with
  | some content => workspace.afterWriting path content
  | none => workspace

/-- Writing a picture leaves behind what follows from the picture and the name of the
file. It succeeds exactly if there is a place for the file and what is left there is
the whole picture. -/
theorem run_write (picture : Picture) (path : Path) (workspace : Workspace) :
    ∃ outcome, (picture.write path).run workspace = (outcome, picture.written path workspace) ∧
      (outcome = .ok () ↔
        ∃ content location, picture.deposit? path = some content ∧ picture.IsWhole content ∧
          workspace.tree.target workspace.working path = .ok location) := by
  have complete (format : Image.Format)
      (deposit : picture.deposit? path = some (picture.content format)) :
      ∃ outcome, (ExceptT.adapt SavingFault.file
          (Action.writeFile path (picture.content format))).run workspace =
            (outcome, picture.written path workspace) ∧
        (outcome = .ok () ↔
          ∃ content location, picture.deposit? path = some content ∧ picture.IsWhole content ∧
            workspace.tree.target workspace.working path = .ok location) := by
    refine ⟨_, by rw [run_create, written, deposit], ?_⟩
    cases workspace.tree.target workspace.working path with
    | error fault => simp [Except.map, Except.mapError]
    | ok location => simp [Except.map, Except.mapError, deposit, IsWhole]
  unfold Picture.write
  cases known : path.extension? with
  | none =>
    have untouched : picture.deposit? path = none := by simp [deposit?, known]
    refine ⟨.error (.unknownFormat none), ?_, by simp [untouched]⟩
    rw [written, untouched]
    rfl
  | some extension =>
    rcases recognized : Image.recognize extension with format | name | _
    · cases format with
      | png => simpa [recognized] using complete .png (by simp [deposit?, known, recognized])
      | bitmap => simpa [recognized] using complete .bitmap (by simp [deposit?, known, recognized])
      | jpeg =>
        by_cases fits : max picture.width picture.height ≤ Image.Jpeg.sizeLimit
        · have deposit : picture.deposit? path = some (picture.content .jpeg) := by
            simp only [deposit?, known, Option.bind_some, recognized, if_pos fits]
          simpa only [recognized, if_pos fits] using complete .jpeg deposit
        · have deposit : picture.deposit? path = some (.plain Image.Jpeg.opening) := by
            simp only [deposit?, known, Option.bind_some, recognized, if_neg fits]
          obtain ⟨other, run⟩ :=
            run_create_throw path (.plain Image.Jpeg.opening) .oversized workspace
          refine ⟨.error other, ?_, by simp [deposit, IsWhole, content]⟩
          rw [written, deposit]
          simpa only [recognized, if_neg fits] using run
    · have deposit : picture.deposit? path = some (.plain []) := by
        simp [deposit?, known, recognized]
      obtain ⟨other, run⟩ := run_create_throw path (.plain []) (.refusedFormat name) workspace
      refine ⟨.error other, ?_, by simp [deposit, IsWhole, content]⟩
      rw [written, deposit]
      simpa [recognized] using run
    · have untouched : picture.deposit? path = none := by simp [deposit?, known, recognized]
      refine ⟨.error (.unknownFormat (some extension)), ?_, by simp [untouched]⟩
      simp only [recognized, written, untouched]
      rfl

end Picture

namespace Sketch

/-- The picture of a drawing, as far as it got. -/
def picture (sketch : Sketch) (width height : Nat) : Picture := ⟨width, height, sketch.marks⟩

/-- The workspace after a drawing is saved, be it saved well or not. One that never comes to an
end leaves everything as it is. -/
def afterSaving (sketch : Sketch) (width height : Nat) (path : Path) (workspace : Workspace) :
    Workspace :=
  match sketch.failure with
  | some .endlessSearch => workspace
  | _ => (sketch.picture width height).written path workspace

/-- What is drawn to its end, or until it stops, is written. -/
theorem afterSaving_eq_written {sketch : Sketch} (ends : sketch.failure ≠ some .endlessSearch)
    (width height : Nat) (path : Path) (workspace : Workspace) :
    sketch.afterSaving width height path workspace =
      (sketch.picture width height).written path workspace := by
  rw [afterSaving]
  split
  · next endless => exact absurd endless ends
  · rfl

/-- A drawing is written as far as it got, if it ever ends. After that it fails with the cause
that stopped it or, if there is none, ends as writing does. -/
theorem run_save_eq (sketch : Sketch) (width height : Nat) (path : Path) (workspace : Workspace) :
    let after := sketch.afterSaving width height path workspace
    ∃ outcome : Except SavingFault Unit,
      (sketch.save width height path).run workspace =
        (match sketch.failure, outcome with
          | some cause, _ => (.error cause.failure, after)
          | none, .error fault => (.error (Cause.drawing (.saving fault)).failure, after)
          | none, .ok () => (.ok (), after.reporting [.saved path])) ∧
      (outcome = .ok () ↔
        ∃ content location, (sketch.picture width height).deposit? path = some content ∧
          (sketch.picture width height).IsWhole content ∧
          workspace.tree.target workspace.working path = .ok location) := by
  obtain ⟨outcome, run, succeeds⟩ := (sketch.picture width height).run_write path workspace
  have written : Action.run (ExceptT.lift ((Picture.mk width height sketch.marks).write path).run)
      workspace = (.ok outcome, (sketch.picture width height).written path workspace) := by
    change (((sketch.picture width height).write path).run workspace).map Except.ok id = _
    rw [run]
    rfl
  refine ⟨outcome, ?_, succeeds⟩
  rw [Sketch.save]
  split
  · next endless =>
    simp only [endless, afterSaving]
    rfl
  · next ends =>
    rw [afterSaving_eq_written ends, Action.run_bind, written]
    cases sketch.failure with
    | some cause => rfl
    | none => cases outcome <;> rfl

/-- A drawing that stopped early is written as far as it got, if it ever ends, and fails with its
own cause. A complete one succeeds, and is reported as saved, exactly if writing does. -/
theorem run_save (sketch : Sketch) (width height : Nat) (path : Path) (workspace : Workspace) :
    let after := sketch.afterSaving width height path workspace
    match sketch.failure with
    | some cause => (sketch.save width height path).run workspace = (.error cause.failure, after)
    | none =>
      (∃ fault, (sketch.save width height path).run workspace =
        (.error (Cause.drawing (.saving fault)).failure, after)) ∨
      ((sketch.save width height path).run workspace = (.ok (), after.reporting [.saved path]) ∧
        ∃ content location, (sketch.picture width height).deposit? path = some content ∧
          (sketch.picture width height).IsWhole content ∧
          workspace.tree.target workspace.working path = .ok location) := by
  obtain ⟨outcome, run, succeeds⟩ := sketch.run_save_eq width height path workspace
  cases stopped : sketch.failure with
  | some cause => simpa only [stopped] using run
  | none =>
    simp only [stopped] at run ⊢
    cases outcome with
    | error fault => exact .inl ⟨fault, run⟩
    | ok _ => exact .inr ⟨run, succeeds.1 rfl⟩

/-- A drawing that is saved once is saved wherever there is a place for its file, as there was
the first time, and leaves the same there, whatever font is registered. -/
theorem deposits_save {sketch : Sketch} {width height : Nat} {path : Path} {workspace : Workspace}
    (saved : (sketch.save width height path).result workspace = .ok ()) :
    ∃ location content, workspace.tree.target workspace.working path = .ok location ∧
      ∀ typeface, (sketch.save width height path).Deposits typeface path content
        [.saved path] := by
  obtain ⟨outcome, run, succeeds⟩ := sketch.run_save_eq width height path workspace
  rw [Action.result, run] at saved
  cases stopped : sketch.failure with
  | some cause => simp [stopped] at saved
  | none =>
    rw [stopped] at saved
    cases outcome with
    | error fault => simp at saved
    | ok _ =>
      obtain ⟨content, place, deposit, whole, found⟩ := succeeds.1 rfl
      refine ⟨place, content, found, ?_⟩
      intro _ other location _ reached
      obtain ⟨otherOutcome, otherRun, otherSucceeds⟩ :=
        sketch.run_save_eq width height path other
      rw [otherSucceeds.2 ⟨content, location, deposit, whole, reached⟩, stopped] at otherRun
      rw [otherRun, afterSaving_eq_written (by simp [stopped]), Picture.written, deposit]
      simp only [Workspace.afterWriting, reached]

/-- What is drawn and saved once is saved wherever there is a place for its file. -/
theorem deposits_draw (drawn : Except Cause Sketch) {width height : Nat} {path : Path}
    {workspace : Workspace}
    (saved : Action.result (do
      let sketch ← Action.ofExcept id drawn
      sketch.save width height path) workspace = .ok ()) :
    ∃ location content, workspace.tree.target workspace.working path = .ok location ∧
      ∀ typeface, Action.Deposits (do
        let sketch ← Action.ofExcept id drawn
        sketch.save width height path) typeface path content [.saved path] := by
  cases drawn with
  | error cause => simp [Action.result, Action.run_bind, Except.mapError] at saved
  | ok sketch =>
    have savedSketch : (sketch.save width height path).result workspace = .ok () := saved
    exact deposits_save savedSketch

end Sketch

end

end BenchFigures
