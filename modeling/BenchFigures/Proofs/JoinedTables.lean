import BenchFigures.Proofs.RowFaults
import BenchFigures.Proofs.TableParts

/-!
# Joined result files

A result file can be read in two parts. If the first part has a record after its header and
ends with a line, then the runs of the whole are those of the first part and then those of
the second, read after a header of its own. A failure in the first part is the failure of
the whole. One in the second part is too, but for the positions that it names.
-/

namespace BenchFigures.ResultFile

open Text Table

/-- A file with a record after its header fails for one of its records. -/
theorem runs_eq_error {file : Path} {bytes : List UInt8} {failure : Failure}
    (filled : 2 ≤ (Table.records bytes).length) (failed : outcome file bytes = .error failure) :
    runs file bytes = .error failure := by
  rw [outcome, bind_eq_error_iff] at failed
  refine failed.resolve_right ?_
  rintro ⟨found, computed, refused⟩
  have lengths := ((runs_eq_ok_iff file bytes found).1 computed).length_eq
  have some : found ≠ [] := by
    rintro rfl
    simp at lengths
    omega
  simp [Sample.ofRuns, some, Except.mapError] at refused

/-- A file fails if one of its records does. -/
theorem outcome_eq_error {file : Path} {bytes : List UInt8} {failure : Failure}
    (failed : runs file bytes = .error failure) : outcome file bytes = .error failure := by
  rw [outcome, failed, Except.bind]

/-- What a file gives are its runs. -/
theorem outcome_eq_ok_iff_runs (file : Path) (bytes : List UInt8) (sample : Sample Float) :
    outcome file bytes = .ok sample ↔ runs file bytes = .ok sample.runs := by
  rw [outcome_eq_ok_iff, runs_eq_ok_iff]

/-- Records that come after those of a file add their runs. -/
theorem runs_append (file : Path) {front whole : List UInt8} {more : List Record}
    (headed : Table.records front ≠ [])
    (joined : Table.records whole = Table.records front ++ more) :
    runs file whole =
      (runs file front).bind fun found => (more.mapM (run file)).map (found ++ ·) := by
  have split : (Table.records whole).drop 1 = (Table.records front).drop 1 ++ more := by
    rw [joined, List.drop_append_of_le_length (List.length_pos_iff.2 headed)]
  rw [runs, runs, split, List.mapM_append]
  cases (Table.records front).drop 1 |>.mapM (run file) with
  | error failure => rfl
  | ok found => cases more.mapM (run file) <;> rfl

/-- Records that are moved give the same runs, or the same failure but for its positions. -/
theorem mapM_run_unplaced (file : Path) {records moved : List Record}
    (same : records.map Record.fields = moved.map Record.fields) :
    (records.mapM (run file)).mapError Failure.unplaced =
      (moved.mapM (run file)).mapError Failure.unplaced := by
  rw [map_eq_map_iff_forall₂] at same
  rw [mapError_mapM, mapError_mapM]
  exact mapM_congr_of_forall₂ (same.imp fun _ _ fields => run_unplaced file fields)

/-- A result file whose first part has a record after its header and ends with a line is read
like its two parts. If the first part is read, the runs of the whole are its runs and then
those of the second part after any header of one record; a second part without records adds
none, and a record that is refused there is refused here, with the same failure but for the
positions that it names. If the first part is refused, the whole is, with the very same
failure. -/
theorem read_joined {file : Path} {first headed joined : Workspace}
    {front header back : List UInt8} (frontEnds : EndsLine front)
    (filled : 2 ≤ (Table.records front).length) (headerEnds : EndsLine header)
    (oneRecord : (Table.records header).length = 1)
    (presentFirst : first.fileBytes? file = some front)
    (presentHeaded : headed.fileBytes? file = some (header ++ back))
    (presentJoined : joined.fileBytes? file = some (front ++ back)) :
    (∀ sample, (read file).result first = .ok sample →
      (∀ more, (read file).result headed = .ok more →
        ∃ whole, (read file).result joined = .ok whole ∧ whole.runs = sample.runs ++ more.runs) ∧
      ((Table.records (header ++ back)).length = 1 → (read file).result joined = .ok sample) ∧
      (∀ failure, (read file).result headed = .error failure →
        2 ≤ (Table.records (header ++ back)).length →
        ∃ moved, (read file).result joined = .error moved ∧
          moved.unplaced = failure.unplaced)) ∧
    ∀ failure, (read file).result first = .error failure →
      (read file).result joined = .error failure := by
  rw [result_read presentFirst, result_read presentHeaded, result_read presentJoined]
  obtain ⟨more, moreHeaded, whole, wholeHeaded, alike⟩ :=
    frontEnds.exists_records_append headerEnds back
  have some : Table.records front ≠ [] := by
    rw [← List.length_pos_iff]
    omega
  -- The same bytes add their runs to those of the first part, and to the header, which has none.
  have joinedRuns := runs_append file some whole
  have headedRuns : runs file (header ++ back) = moreHeaded.mapM (run file) := by
    have none : runs file header = .ok [] := by
      rw [runs, List.drop_eq_nil_of_le (by omega)]
      rfl
    rw [runs_append file (by rw [← List.length_pos_iff]; omega) wholeHeaded, none]
    cases moreHeaded.mapM (run file) <;> rfl
  have moves := mapM_run_unplaced file alike
  refine ⟨fun sample succeeded => ⟨?_, ?_, ?_⟩, ?_⟩
  · intro added headedSucceeded
    rw [outcome_eq_ok_iff_runs, headedRuns, ← mapError_eq_ok_iff Failure.unplaced, ← moves,
      mapError_eq_ok_iff] at headedSucceeded
    rw [outcome_eq_ok_iff_runs] at succeeded
    have runsThere : runs file (front ++ back) = .ok (sample.runs ++ added.runs) := by
      rw [joinedRuns, succeeded, headedSucceeded]
      rfl
    exact ⟨⟨sample.runs ++ added.runs, by simp [sample.runs_ne_nil]⟩,
      (outcome_eq_ok_iff_runs file _ _).2 runsThere, rfl⟩
  · intro single
    have none : moreHeaded = [] := by
      rw [wholeHeaded, List.length_append] at single
      exact List.eq_nil_of_length_eq_zero (by omega)
    obtain rfl : more = [] := by simpa [none] using alike
    rw [outcome_eq_ok_iff_runs] at succeeded ⊢
    rw [joinedRuns, succeeded]
    simp [Except.bind, Except.map, pure, Except.pure]
  · intro failure headedFailed several
    have failedRuns := runs_eq_error several headedFailed
    have moved : (more.mapM (run file)).mapError Failure.unplaced = .error failure.unplaced := by
      rw [moves, ← headedRuns, failedRuns, Except.mapError]
    obtain ⟨own, failed, same⟩ := (mapError_eq_error_iff _ _ _).1 moved
    rw [outcome_eq_ok_iff_runs] at succeeded
    refine ⟨own, outcome_eq_error ?_, same.symm⟩
    rw [joinedRuns, succeeded, failed]
    rfl
  · intro failure failed
    apply outcome_eq_error
    rw [joinedRuns, runs_eq_error filled failed]
    rfl

/-- A file in two parts: the first ends with a carriage return, and the second starts with
the line feed after it. -/
theorem read_joined_runs :
    let holding (bytes : List UInt8) : Workspace :=
      { tree := FileTree.empty.put ["runs.csv"] (.file (.plain bytes))
        working := [], font := none, events := [] }
    ∃ sample, (read ⟨"runs.csv"⟩).result
        (holding (encode "run,ms,dev\n1,2.5,0.5\r".toList ++ encode "\n2,4,0.25\n".toList)) =
          .ok sample ∧
      sample.runs = [⟨1, 2.5, 0.5⟩, ⟨2, 4, 0.25⟩] := by
  intro holding
  have frontEnds : EndsLine (encode "run,ms,dev\n1,2.5,0.5\r".toList) :=
    ⟨encode "run,ms,dev\n1,2.5,0.5".toList, 0x0D, rfl, rfl, by decide +kernel⟩
  have headerEnds : EndsLine (encode "run\n".toList) :=
    ⟨encode "run".toList, 0x0A, rfl, rfl, by decide +kernel⟩
  have joined := @read_joined ⟨"runs.csv"⟩ (holding _) (holding _) (holding _) _ _
    (encode "\n2,4,0.25\n".toList) frontEnds (by decide +kernel) headerEnds (by decide +kernel)
    rfl rfl rfl
  have front : outcome ⟨"runs.csv"⟩ (encode "run,ms,dev\n1,2.5,0.5\r".toList) =
      .ok ⟨[⟨1, 2.5, 0.5⟩], by simp⟩ := rfl
  have back : outcome ⟨"runs.csv"⟩ (encode "run\n".toList ++ encode "\n2,4,0.25\n".toList) =
      .ok ⟨[⟨2, 4, 0.25⟩], by simp⟩ := rfl
  exact (joined.1 _ ((result_read rfl).trans front)).1 _ ((result_read rfl).trans back)

end BenchFigures.ResultFile
