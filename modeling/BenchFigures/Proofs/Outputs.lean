import BenchFigures.Proofs.Saving

/-!
# Writing outputs in turn

An output is a file that a run writes. Writing it is refused and leaves everything
alone, fails and leaves something in its file, or succeeds and leaves a complete
content there, which is then reported as saved. Which contents are complete may depend on the
registered font, which writing leaves alone. Outputs are written in turn until one
fails. If their files are different files, an output that is complete stays complete
while later ones are written, and a file changes only after all earlier ones are
complete.
-/

namespace BenchFigures

/-- An output of a run: the path of its file, what writes it, and which contents make
the file complete for a font. -/
structure Output where
  path : Path
  write : Action Unit
  IsComplete : Typeface → Content → Prop

namespace Workspace

/-- From one workspace to another no file changed but those that some paths lead to,
no place for a file moved, the same font is registered, and reports were only added. -/
structure Frame (paths : List Path) (before after : Workspace) : Prop where
  working_eq : after.working = before.working
  font_eq : after.font = before.font
  target_iff (path : Path) (location : Location) :
    after.tree.target after.working path = .ok location ↔
      before.tree.target before.working path = .ok location
  entry_eq (location : Location)
    (elsewhere : ∀ path ∈ paths, before.tree.target before.working path ≠ .ok location) :
    after.tree.entry? location = before.tree.entry? location
  events_eq : ∃ added, after.events = before.events ++ added

/-- Paths that lead to places for files lead to different ones. -/
def Apart (workspace : Workspace) (paths : List Path) : Prop :=
  paths.Pairwise fun first second => ∀ location,
    workspace.tree.target workspace.working first = .ok location →
      workspace.tree.target workspace.working second ≠ .ok location

namespace Frame

/-- Nothing changes when nothing is done. -/
theorem refl (paths : List Path) (workspace : Workspace) : Frame paths workspace workspace :=
  ⟨rfl, rfl, fun _ _ => Iff.rfl, fun _ _ => rfl, [], by simp⟩

/-- Reports leave all files alone. -/
theorem reporting (paths : List Path) (workspace : Workspace) (added : List Event) :
    Frame paths workspace (workspace.reporting added) :=
  ⟨rfl, rfl, fun _ _ => Iff.rfl, fun _ _ => rfl, added, rfl⟩

/-- Storing a file changes the file of its path. -/
theorem storing {workspace : Workspace} {path : Path} {location : Location}
    (reached : workspace.tree.target workspace.working path = .ok location) (content : Content) :
    Frame [path] workspace (workspace.storing location content) := by
  refine ⟨rfl, rfl, fun other place => FileTree.target_store reached content other place, ?_, [],
    by simp⟩
  intro other elsewhere
  have apart : other ≠ location := by
    rintro rfl
    exact elsewhere path (by simp) reached
  rw [Workspace.tree_storing, FileTree.entry_store reached, if_neg apart]

/-- One change after another changes the files of both. -/
theorem trans {paths others : List Path} {before between after : Workspace}
    (first : Frame paths before between) (second : Frame others between after) :
    Frame (paths ++ others) before after := by
  refine ⟨second.working_eq.trans first.working_eq, second.font_eq.trans first.font_eq, ?_, ?_, ?_⟩
  · intro path location
    exact (second.target_iff path location).trans (first.target_iff path location)
  · intro location elsewhere
    have inSecond : ∀ path ∈ others,
        between.tree.target between.working path ≠ .ok location := by
      intro path member reached
      apply elsewhere path (List.mem_append_right _ member)
      exact (first.target_iff path location).1 reached
    have inFirst : ∀ path ∈ paths, before.tree.target before.working path ≠ .ok location := by
      intro path member
      exact elsewhere path (List.mem_append_left others member)
    exact (second.entry_eq location inSecond).trans (first.entry_eq location inFirst)
  · obtain ⟨added, reported⟩ := first.events_eq
    obtain ⟨more, reportedMore⟩ := second.events_eq
    exact ⟨added ++ more, by rw [reportedMore, reported, List.append_assoc]⟩

/-- The bytes of the registered font are the same. -/
theorem typeface_eq {paths : List Path} {before after : Workspace}
    (frame : Frame paths before after) : after.typeface = before.typeface := by
  rw [typeface, frame.font_eq, typeface]

/-- Paths that lead to different places still do. -/
theorem apart {paths others : List Path} {before after : Workspace}
    (frame : Frame paths before after) (apart : before.Apart others) : after.Apart others := by
  refine apart.imp ?_
  intro path other different location reached otherReached
  apply different location
  · exact (frame.target_iff path location).1 reached
  · exact (frame.target_iff other location).1 otherReached

end Frame

end Workspace

namespace Output

/-- How writing an output may end. -/
inductive Ends (output : Output) (before : Workspace) : Except Failure Unit → Workspace → Prop where
  | refused (failure : Failure) : Ends output before (.error failure) before
  | spoiled (failure : Failure) (location : Location) (content : Content)
      (reached : before.tree.target before.working output.path = .ok location) :
      Ends output before (.error failure) (before.storing location content)
  | saved (location : Location) (content : Content) (more : List Event)
      (reached : before.tree.target before.working output.path = .ok location)
      (complete : output.IsComplete before.typeface content) (quiet : ∀ path, .saved path ∉ more) :
      Ends output before (.ok ())
        ((before.storing location content).reporting (.saved output.path :: more))

/-- Writing an output always ends in one of these ways. -/
def IsLawful (output : Output) : Prop :=
  ∀ before, output.Ends before (output.write.result before) (output.write.run before).2

/-- An output was saved in between: its file is complete for the font that is registered in the
end, and this was reported. -/
def SavedBetween (output : Output) (before after : Workspace) : Prop :=
  (∃ content, output.IsComplete after.typeface content ∧
    after.tree.Holds after.working output.path content) ∧
  ∃ added, after.events = before.events ++ added ∧ .saved output.path ∈ added

/-- An output is written whenever there is a place for its file. -/
def NeedsOnlyPlace (output : Output) : Prop :=
  ∀ before location, before.tree.target before.working output.path = .ok location →
    output.write.result before = .ok ()

/-- Write outputs in turn. -/
def writeAll (outputs : List Output) : Action Unit := outputs.forM write

/-- Writing an output changes its own file at most. -/
theorem Ends.frame {output : Output} {before after : Workspace} {outcome : Except Failure Unit}
    (ends : output.Ends before outcome after) : Workspace.Frame [output.path] before after := by
  cases ends with
  | refused failure => exact .refl _ before
  | spoiled failure location content reached => exact .storing reached content
  | saved location content more reached complete quiet =>
    have stored := Workspace.Frame.storing reached content
    exact stored.trans (.reporting [] _ _)

/-- What was saved stays saved while other files are written. -/
theorem Ends.savedBetween {output : Output} {before between after : Workspace}
    {others : List Path} (ends : output.Ends before (.ok ()) between)
    (apart : before.Apart (output.path :: others))
    (frame : Workspace.Frame others between after) : output.SavedBetween before after := by
  have own := ends.frame
  cases ends with
  | saved location content more reached complete quiet =>
    obtain ⟨added, reported⟩ := frame.events_eq
    have stored : after.tree.entry? location = some (.file content) := by
      have elsewhere : ∀ path ∈ others, ((before.storing location content).reporting
          (.saved output.path :: more)).tree.target before.working path ≠ .ok location := by
        intro path member otherReached
        have different := (List.pairwise_cons.1 apart).1 path member
        exact different location reached ((own.target_iff path location).1 otherReached)
      rw [frame.entry_eq location elsewhere]
      simp [FileTree.entry_store reached]
    have still := (frame.target_iff output.path location).2
      ((own.target_iff output.path location).2 reached)
    have sameFont : after.typeface = before.typeface :=
      frame.typeface_eq.trans own.typeface_eq
    refine ⟨⟨content, sameFont ▸ complete, location, still, stored⟩,
      .saved output.path :: more ++ added, ?_, by simp⟩
    simp [reported]

/-- Reports of more cover those of less. -/
theorem SavedBetween.widen {output : Output} {before between after : Workspace}
    (reports : ∃ added, between.events = before.events ++ added)
    (saved : output.SavedBetween between after) : output.SavedBetween before after := by
  obtain ⟨held, added, reported, member⟩ := saved
  obtain ⟨earlier, reportedEarlier⟩ := reports
  refine ⟨held, earlier ++ added, ?_, List.mem_append_right _ member⟩
  rw [reported, reportedEarlier, List.append_assoc]

/-- The first output is written, and after a success the others are. -/
theorem run_writeAll_cons (first : Output) (rest : List Output) (before : Workspace) :
    (writeAll (first :: rest)).run before =
      match first.write.run before with
      | (.ok _, between) => (writeAll rest).run between
      | (.error failure, after) => (.error failure, after) := by
  change Action.run (first.write >>= fun _ => writeAll rest) before = _
  rw [Action.run_bind]
  rcases first.write.run before with ⟨_ | _, _⟩ <;> rfl

/-- Writing outputs changes their files at most. -/
theorem frame_writeAll {outputs : List Output} (lawful : ∀ output ∈ outputs, output.IsLawful)
    (before : Workspace) :
    Workspace.Frame (outputs.map path) before ((writeAll outputs).run before).2 := by
  induction outputs generalizing before with
  | nil => exact .refl [] before
  | cons first rest inductionHypothesis =>
    obtain ⟨firstLawful, restLawful⟩ := List.forall_mem_cons.1 lawful
    have ends := firstLawful before
    have own := ends.frame
    rw [run_writeAll_cons]
    rcases run : first.write.run before with ⟨_ | _, between⟩
    · have further := own.trans (.refl (rest.map path) _)
      simpa [run] using further
    · have further := own.trans (inductionHypothesis restLawful _)
      simpa [run] using further

/-- A file changes only after all outputs before it were saved. -/
theorem saved_before_change {outputs earlier later : List Output} {output : Output}
    (lawful : ∀ output ∈ outputs, output.IsLawful) (split : outputs = earlier ++ output :: later)
    {before : Workspace} (apart : before.Apart (outputs.map path)) {location : Location}
    (reached : before.tree.target before.working output.path = .ok location)
    (changed : FileTree.entry? ((writeAll outputs).run before).2.tree location ≠
      before.tree.entry? location) :
    ∀ other ∈ earlier, other.SavedBetween before ((writeAll outputs).run before).2 := by
  induction outputs generalizing earlier before with
  | nil => simp at split
  | cons first rest inductionHypothesis =>
    obtain ⟨firstLawful, restLawful⟩ := List.forall_mem_cons.1 lawful
    cases earlier with
    | nil => simp
    | cons head earlier =>
      obtain ⟨rfl, restSplit⟩ : first = head ∧ rest = earlier ++ output :: later := by
        simpa using split
      have ends := firstLawful before
      have own := ends.frame
      -- The first output has another file, so writing it is not what changed this one.
      have kept : FileTree.entry? (first.write.run before).2.tree location =
          before.tree.entry? location := by
        apply own.entry_eq location
        intro path member firstReached
        obtain rfl := List.mem_singleton.1 member
        have different := (List.pairwise_cons.1 apart).1 output.path (by simp [restSplit])
        exact different location firstReached reached
      rw [run_writeAll_cons] at changed ⊢
      rcases run : first.write.run before with ⟨failure | _, between⟩
      · simp only [run] at changed kept
        exact absurd kept changed
      · simp only [run, Action.result] at changed kept ends own ⊢
        have restFrame := frame_writeAll restLawful between
        have apartThere := own.apart (List.pairwise_cons.1 apart).2
        have reachedThere := (own.target_iff output.path location).2 reached
        rw [List.forall_mem_cons]
        refine ⟨ends.savedBetween apart restFrame, ?_⟩
        intro other member
        have saved := inductionHypothesis restLawful restSplit apartThere reachedThere
          (kept ▸ changed) other member
        exact saved.widen own.events_eq

/-- An output's file is complete, and if a place for the file does not settle that this
run wrote it then a report says so. -/
def Confirmed (output : Output) (before after : Workspace) : Prop :=
  (∃ content, output.IsComplete after.typeface content ∧
    after.tree.Holds after.working output.path content) ∧
  (output.NeedsOnlyPlace ∨ output.SavedBetween before after)

/-- Another output was not saved when the first one was. -/
theorem SavedBetween.narrow {first output : Output} {before between after : Workspace}
    {paths : List Path} (ends : first.Ends before (.ok ()) between)
    (different : ∀ location, before.tree.target before.working first.path = .ok location →
      before.tree.target before.working output.path ≠ .ok location)
    (frame : Workspace.Frame paths between after) (saved : output.SavedBetween before after) :
    output.SavedBetween between after := by
  have own := ends.frame
  obtain ⟨held, added, reported, member⟩ := saved
  refine ⟨held, ?_⟩
  obtain ⟨content, complete, location, reached, stored⟩ := held
  obtain ⟨later, reportedLater⟩ := frame.events_eq
  refine ⟨later, reportedLater, ?_⟩
  have reachedBefore := (own.target_iff _ _).1 ((frame.target_iff _ _).1 reached)
  cases ends with
  | saved firstLocation firstContent more firstReached firstComplete quiet =>
    obtain rfl : added = .saved first.path :: more ++ later := by
      rw [reportedLater] at reported
      simpa using reported.symm
    rcases List.mem_cons.1 member with same | inRest
    · have samePath : output.path = first.path := by simpa using same
      rw [samePath] at reachedBefore different
      exact absurd reachedBefore (different location reachedBefore)
    · rcases List.mem_append.1 inRest with inMore | inLater
      · exact absurd inMore (quiet output.path)
      · exact inLater

/-- A failure reports nothing as saved. -/
theorem Ends.not_savedBetween {output other : Output} {before after : Workspace}
    {failure : Failure} (ends : output.Ends before (.error failure) after) :
    ¬ other.SavedBetween before after := by
  rintro ⟨-, added, reported, member⟩
  have silent : after.events = before.events := by cases ends <;> rfl
  obtain rfl : added = [] := by simpa [silent] using reported
  simp at member

/-- An output that fails to be written is not confirmed. -/
theorem Ends.not_confirmed {output : Output} {before after : Workspace} {failure : Failure}
    (ends : output.Ends before (.error failure) after)
    (failed : output.write.result before = .error failure) : ¬ output.Confirmed before after := by
  rintro ⟨⟨content, -, location, reached, -⟩, place | saved⟩
  · have written := place before location ((ends.frame.target_iff _ _).1 reached)
    exact absurd (failed.symm.trans written) (by simp)
  · exact ends.not_savedBetween saved

/-- Where all outputs are written, all are saved. -/
theorem saved_of_writeAll {outputs : List Output} (lawful : ∀ output ∈ outputs, output.IsLawful)
    {before : Workspace} (apart : before.Apart (outputs.map path))
    (succeeded : (writeAll outputs).result before = .ok ()) :
    ∀ output ∈ outputs, output.SavedBetween before ((writeAll outputs).run before).2 := by
  induction outputs generalizing before with
  | nil => simp
  | cons first rest inductionHypothesis =>
    obtain ⟨firstLawful, restLawful⟩ := List.forall_mem_cons.1 lawful
    have ends := firstLawful before
    rw [Action.result, run_writeAll_cons] at succeeded
    rw [run_writeAll_cons]
    rcases run : first.write.run before with ⟨failure | _, between⟩
    · simp [run] at succeeded
    · simp only [run, Action.result] at succeeded ends ⊢
      have apartThere := ends.frame.apart (List.pairwise_cons.1 apart).2
      rw [List.forall_mem_cons]
      refine ⟨ends.savedBetween apart (frame_writeAll restLawful between), ?_⟩
      intro other member
      exact (inductionHypothesis restLawful apartThere succeeded other member).widen
        ends.frame.events_eq

/-- Where an output fails, all outputs before it were saved, it is not confirmed itself,
and the ones after it were not even begun. -/
theorem stopped_of_writeAll {outputs : List Output} (lawful : ∀ output ∈ outputs, output.IsLawful)
    {before : Workspace} (apart : before.Apart (outputs.map path)) {failure : Failure}
    (failed : (writeAll outputs).result before = .error failure) :
    ∃ earlier output later, outputs = earlier ++ output :: later ∧
      (∀ other ∈ earlier, other.SavedBetween before ((writeAll outputs).run before).2) ∧
      ¬ output.Confirmed before ((writeAll outputs).run before).2 ∧
      (writeAll (earlier ++ [output])).run before = (writeAll outputs).run before := by
  induction outputs generalizing before with
  | nil => simp [writeAll, Action.result] at failed
  | cons first rest inductionHypothesis =>
    obtain ⟨firstLawful, restLawful⟩ := List.forall_mem_cons.1 lawful
    have ends := firstLawful before
    rw [Action.result, run_writeAll_cons] at failed
    rcases run : first.write.run before with ⟨firstFailure | _, between⟩
    · have stopped : first.write.result before = .error firstFailure := by simp [Action.result, run]
      rw [stopped, run] at ends
      refine ⟨[], first, rest, rfl, by simp, ?_, ?_⟩
      · rw [run_writeAll_cons, run]
        exact ends.not_confirmed stopped
      · rw [List.nil_append, run_writeAll_cons, run_writeAll_cons, run]
    · simp only [run, Action.result] at failed ends
      have restFrame := frame_writeAll restLawful between
      have apartThere := ends.frame.apart (List.pairwise_cons.1 apart).2
      obtain ⟨earlier, output, later, split, saved, unconfirmed, same⟩ :=
        inductionHypothesis restLawful apartThere failed
      refine ⟨first :: earlier, output, later, by simp [split], ?_, ?_, ?_⟩
      · rw [run_writeAll_cons, run]
        rw [List.forall_mem_cons]
        refine ⟨ends.savedBetween apart restFrame, ?_⟩
        intro other member
        exact (saved other member).widen ends.frame.events_eq
      · rw [run_writeAll_cons, run]
        rintro ⟨held, place | savedNow⟩
        · exact unconfirmed ⟨held, .inl place⟩
        · have different := (List.pairwise_cons.1 apart).1 output.path (by simp [split])
          exact unconfirmed ⟨held, .inr (savedNow.narrow ends different restFrame)⟩
      · rw [List.cons_append, run_writeAll_cons, run_writeAll_cons, run]
        exact same

/-- A failure in other words ends writing in the same way. -/
theorem Ends.mapError {output : Output} {before after : Workspace}
    {outcome : Except Failure Unit} (ends : output.Ends before outcome after)
    (rephrase : Failure → Failure) : output.Ends before (outcome.mapError rephrase) after := by
  cases ends with
  | refused failure => exact .refused _
  | spoiled failure location content reached => exact .spoiled _ location content reached
  | saved location content more reached complete quiet =>
    exact .saved location content more reached complete quiet

/-- A report after writing that does not say that a file was saved changes nothing else. -/
theorem ends_report {output : Output} (action : Action Unit) {before : Workspace} {event : Event}
    (ends : output.Ends before (action.result before) (action.run before).2)
    (unsaved : ∀ path, event ≠ .saved path) :
    let reporting : Action Unit := do
      action
      Action.report event
    output.Ends before (reporting.result before) (reporting.run before).2 := by
  intro reporting
  have run : reporting.run before =
      match action.run before with
      | (.ok _, after) => (.ok (), after.reporting [event])
      | (.error failure, after) => (.error failure, after) := by
    rw [Action.run_bind]
    rcases action.run before with ⟨_ | _, _⟩ <;> rfl
  rw [Action.result, run]
  rw [Action.result] at ends
  generalize action.run before = ended at ends ⊢
  rcases ended with ⟨failure | _, after⟩
  · exact ends
  · cases ends with
    | saved location content more reached complete quiet =>
      have quietStill : ∀ path, .saved path ∉ more ++ [event] := by
        intro path member
        rcases List.mem_append.1 member with inMore | last
        · exact quiet path inMore
        · exact unsaved path (List.mem_singleton.1 last).symm
      have saved := Ends.saved location content (more ++ [event]) reached complete quietStill
      rw [← List.cons_append, ← Workspace.reporting_reporting] at saved
      exact saved

section

variable [DrawingLibrary]

/-- A picture that is written, or refused, ends up in its file or leaves it alone. -/
theorem ends_written {output : Output} (picture : Picture) (failure : Failure)
    (before : Workspace) :
    output.Ends before (.error failure) (picture.written output.path before) := by
  rw [Picture.written]
  cases picture.deposit? output.path with
  | none => exact .refused failure
  | some content =>
    simp only [Workspace.afterWriting]
    cases reached : before.tree.target before.working output.path with
    | error fault => exact .refused failure
    | ok location => exact .spoiled failure location content reached

/-- A drawing that fails to be saved is written as far as it got, or refused, or never ends. -/
theorem ends_afterSaving {output : Output} (sketch : Sketch) (width height : Nat)
    (failure : Failure) (before : Workspace) :
    output.Ends before (.error failure)
      (sketch.afterSaving width height output.path before) := by
  rw [Sketch.afterSaving]
  split
  · exact .refused failure
  · exact ends_written _ failure before

/-- Drawing a sketch and saving it ends in one of the ways an output may end, if the whole
picture of a complete sketch counts as complete. -/
theorem ends_save {output : Output} {sketch : Sketch} {width height : Nat} {before : Workspace}
    (whole : sketch.failure = none → ∀ content, (sketch.picture width height).IsWhole content →
      output.IsComplete before.typeface content) :
    output.Ends before ((sketch.save width height output.path).result before)
      ((sketch.save width height output.path).run before).2 := by
  have run := sketch.run_save width height output.path before
  cases stopped : sketch.failure with
  | some cause =>
    simp only [stopped] at run
    rw [Action.result, run]
    exact ends_afterSaving _ _ _ _ _
  | none =>
    simp only [stopped] at run
    rcases run with ⟨fault, run⟩ | ⟨run, content, location, deposit, complete, reached⟩
    · rw [Action.result, run]
      exact ends_afterSaving _ _ _ _ _
    · have after : sketch.afterSaving width height output.path before =
          before.storing location content := by
        rw [Sketch.afterSaving_eq_written (by simp [stopped])]
        simp [Picture.written, deposit, Workspace.afterWriting, reached]
      rw [Action.result, run, after]
      exact .saved location content [] reached (whole stopped content complete) (by simp)

end

end Output

end BenchFigures
