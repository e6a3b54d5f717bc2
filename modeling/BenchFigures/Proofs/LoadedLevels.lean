import BenchFigures.Proofs.Charts
import BenchFigures.Proofs.SharedNumbers

/-!
# What a configuration and its levels guarantee

An accepted configuration names a level, and the settings of both of its charts are accepted.
Loading gives a result for each level that is named, made from one sample for each variant. So
there is a category for every chart, each union variant has its speedup, and all charts are
drawn, at least in part.
-/

namespace BenchFigures

/-- A configuration is accepted if it names a level and the settings of both charts are. -/
theorem Configuration.check_eq_ok_iff (configuration : Configuration) :
    configuration.check = .ok () ↔
      configuration.levels ≠ [] ∧ configuration.elapsedChart.check = .ok () ∧
        configuration.speedupChart.check = .ok () := by
  rw [check]
  cases configuration.levels with
  | nil => simp [bind, Except.bind]
  | cons level rest =>
    cases configuration.elapsedChart.check <;> cases configuration.speedupChart.check <;>
      simp [bind, Except.bind, Except.mapError]

/-! ### Loaded levels -/

section Loaded

variable {configuration : Configuration} {workspace : Workspace} {levels : List LevelResults}
  (loaded : (loadLevels configuration).result workspace = .ok levels)

include loaded

/-- There are levels if any are named. -/
theorem ne_nil_of_loadLevels (named : configuration.levels ≠ []) : levels ≠ [] := by
  rw [result_loadLevels, mapM_eq_ok_iff] at loaded
  rintro rfl
  exact named (List.forall₂_nil_right_iff.1 loaded)

/-- Every level is made from samples. -/
theorem exists_samples_of_loadLevels :
    ∀ results ∈ levels, ∃ level samples, results = LevelResults.ofSamples level samples := by
  rw [result_loadLevels, mapM_eq_ok_iff] at loaded
  generalize configuration.levels = named at loaded
  induction loaded with
  | nil => simp
  | @cons level results _ _ loadedHere _ inductionHypothesis =>
    obtain ⟨-, samples, -, made⟩ := (LevelResults.load_eq_ok_iff _ _ _ _).1 loadedHere
    exact List.forall_mem_cons.2 ⟨⟨level, samples, made⟩, inductionHypothesis⟩

end Loaded

namespace LevelResults

/-- Each union variant is compared with the bitmask variant of its encoding. -/
theorem speedup_ofSamples (level : OptimizationLevel) (samples : PerVariant (Sample Float))
    (encoding : Encoding) :
    let results := ofSamples level samples
    (results.get ⟨.union, encoding⟩).speedup =
      some ((results.get ⟨.union, encoding⟩).speedupOver (results.get ⟨.bitmask, encoding⟩)) := by
  simp only [get, ofSamples, PerVariant.get_ofFunction]
  rfl

end LevelResults

/-! ### Charts of loaded levels -/

section

variable [DrawingLibrary]

/-- A chart of elapsed times of some levels is drawn in its range. -/
theorem ElapsedChart.exists_sketch_ofLevels {levels : List LevelResults} (filled : levels ≠ [])
    (encoding : Encoding) {settings : ElapsedSettings} (checked : settings.check = .ok ())
    (style : Style) (typeface : Typeface) :
    let chart := ofLevels levels encoding settings
    ∃ range, chart.range = .ok range ∧
      chart.sketch style typeface = .ok (chart.drawing style typeface range) := by
  intro chart
  have categories : chart.groups ≠ [] := by simpa [chart, ofLevels] using filled
  obtain ⟨range, ranged⟩ := exists_range_iff.2 categories
  exact ⟨range, ranged,
    (chart.sketch_eq_ok_iff style typeface _).2 ⟨checked, range, ranged, rfl⟩⟩

/-- The chart of speedups of some levels is drawn. -/
theorem SpeedupChart.sketch_ofLevels {levels : List LevelResults} (filled : levels ≠ [])
    {settings : SpeedupSettings} (checked : settings.check = .ok ()) {chart : SpeedupChart}
    (made : ofLevels levels settings = .ok chart) (style : Style) (typeface : Typeface) :
    chart.sketch style typeface = .ok (chart.drawing style typeface) := by
  obtain ⟨grouped, rfl⟩ := (ofLevels_eq_ok_iff _ _ _).1 made
  refine (chart.sketch_eq_ok_iff style typeface _).2 ⟨⟨checked, ?_⟩, rfl⟩
  intro empty
  rw [empty] at grouped
  exact filled (List.forall₂_nil_right_iff.1 grouped)

end

end BenchFigures
