import BenchFigures.Proofs.SeparateEncodings
import BenchFigures.Proofs.SummaryTables

/-!
# The views show the same numbers

The summary, the charts of elapsed times and the chart of speedups are made from the same
levels, each in its own way: the summary goes through the variants of a level in the fixed
order, a chart of elapsed times picks the two variants with its encoding, and the chart of
speedups takes what is stored with the union variants.

So the rows of the level with some index are the four that start at four times this index,
and the category with this index shows the same statistics in every chart.
-/

namespace BenchFigures

/-- In a list put together from parts of one length, the part of an item starts at that
multiple of the length where the item stands. -/
theorem getElem?_flatMap_of_length {α β : Type} {count : Nat} {part : α → List β}
    (even : ∀ item, (part item).length = count) (items : List α) (index : Nat) {place : Nat}
    (inside : place < count) :
    (items.flatMap part)[count * index + place]? =
      items[index]?.bind fun item => (part item)[place]? := by
  induction items generalizing index with
  | nil => simp
  | cons item rest inductionHypothesis =>
    rw [List.flatMap_cons]
    cases index with
    | zero =>
      rw [Nat.mul_zero, Nat.zero_add, List.getElem?_append_left (by rwa [even])]
      rfl
    | succ index =>
      have later : count * (index + 1) + place - count = count * index + place := by
        rw [Nat.mul_succ]
        omega
      rw [List.getElem?_append_right (by rw [even, Nat.mul_succ]; omega), even, later,
        inductionHypothesis]
      rfl

/-- The aggregate that a category of elapsed times shows for a decoding. -/
def ElapsedGroup.aggregate {α : Type} (group : ElapsedGroup α) : Decoding → Aggregate α
  | .bitmask => group.bitmask
  | .union => group.union

/-- The category with some index is that of the level with this index. -/
theorem ElapsedChart.getElem?_groups_ofLevels (levels : List LevelResults) (encoding : Encoding)
    (settings : ElapsedSettings) (index : Nat) :
    (ofLevels levels encoding settings).groups[index]? = levels[index]?.map fun results =>
      ⟨results.level.flag, results.get ⟨.bitmask, encoding⟩, results.get ⟨.union, encoding⟩⟩ := by
  rw [ofLevels, List.getElem?_map]

namespace SpeedupChart

/-- The category of a level has the level's label. -/
theorem label_of_group {results : LevelResults} {own : SpeedupGroup}
    (grouped : group results = .ok own) : own.label = results.level.flag := by
  have unfolded : group results =
      (speedup results.aggregates.unionRegister results.level .register).bind fun register =>
        (speedup results.aggregates.unionStack results.level .stack).bind fun stack =>
          .ok { label := results.level.flag, register, stack } := rfl
  rw [unfolded] at grouped
  simp only [bind_eq_ok_iff] at grouped
  obtain ⟨register, -, stack, -, same⟩ := grouped
  rw [← Except.ok.inj same]

/-- The speedup that a category shows for an encoding is stored with the union variant. -/
theorem stored_of_group {results : LevelResults} {own : SpeedupGroup}
    (grouped : group results = .ok own) (encoding : Encoding) :
    (results.get ⟨.union, encoding⟩).speedup = some (own.value encoding) := by
  have shown := speedup_of_group grouped encoding
  rw [speedup] at shown
  cases stored : (results.get ⟨.union, encoding⟩).speedup with
  | none => simp [stored] at shown
  | some speedup =>
    simp only [stored, Except.ok.injEq] at shown
    rw [shown]

/-- A chart of speedups is made with its settings and with the categories of its levels, in
their order. -/
theorem ofLevels_eq_ok_iff (levels : List LevelResults) (settings : SpeedupSettings)
    (chart : SpeedupChart) :
    ofLevels levels settings = .ok chart ↔
      List.Forall₂ (fun results own => group results = .ok own) levels chart.groups ∧
        chart.settings = settings := by
  have unfolded : ofLevels levels settings =
      (levels.mapM group).bind fun groups => .ok { groups, settings } := rfl
  rw [unfolded, bind_eq_ok_iff]
  constructor
  · rintro ⟨groups, grouped, same⟩
    obtain rfl := Except.ok.inj same
    exact ⟨(mapM_eq_ok_iff _ _ _).1 grouped, rfl⟩
  · rintro ⟨grouped, rfl⟩
    exact ⟨chart.groups, (mapM_eq_ok_iff _ _ _).2 grouped, rfl⟩

end SpeedupChart

namespace Summary

/-- The rows below the header. -/
def body (levels : List LevelResults) : List (List String) :=
  levels.flatMap fun results =>
    Variant.all.map fun variant => cells results.level variant (results.get variant)

/-- The row of a variant at the level with some index: each level has four rows, in the
fixed order of the variants. -/
theorem getElem?_body (levels : List LevelResults) (index : Nat) {place : Nat} {variant : Variant}
    (ordered : Variant.all[place]? = some variant) :
    (body levels)[4 * index + place]? = levels[index]?.map fun results =>
      cells results.level variant (results.get variant) := by
  have inside : place < 4 := (List.getElem?_eq_some_iff.1 ordered).1
  have four (results : LevelResults) : (Variant.all.map fun variant =>
      cells results.level variant (results.get variant)).length = 4 := rfl
  rw [body, getElem?_flatMap_of_length four levels index inside]
  cases levels[index]? with
  | none => rfl
  | some results => simp [ordered]

end Summary

/-- The views of a level show the same: the rows of its variants, its categories in the charts
of elapsed times and its category in the chart of speedups. -/
structure LevelResults.SameNumbers (results : LevelResults) (row : Variant → List String)
    (elapsed : Encoding → ElapsedGroup Float) (speedups : SpeedupGroup) : Prop where
  elapsed_label (encoding : Encoding) : (elapsed encoding).label = results.level.flag
  speedup_label : speedups.label = results.level.flag
  /-- The charts of elapsed times hold the aggregates of the level. -/
  aggregate_eq (variant : Variant) :
    (elapsed variant.encoding).aggregate variant.decoding = results.get variant
  /-- A row names its variant and shows the aggregate that a chart of elapsed times holds. -/
  row_eq (variant : Variant) :
    let shown := (elapsed variant.encoding).aggregate variant.decoding
    (row variant).dropLast =
      [results.level.flag, variant.name, toString shown.count, Decimal.fixed 3 shown.average,
        Decimal.fixed 3 shown.minimum, Decimal.fixed 3 shown.maximum,
        Decimal.fixed 3 shown.deviation]
  /-- The chart of speedups holds what is stored with the union variants of the level. -/
  stored_eq (encoding : Encoding) :
    (results.get ⟨.union, encoding⟩).speedup = some (speedups.value encoding)
  /-- The last cell of a union variant is the speedup that the chart of speedups holds. -/
  last_eq (encoding : Encoding) :
    (row ⟨.union, encoding⟩).getLast? = some (Decimal.fixed 4 (speedups.value encoding))

/-- The cells and categories of a level that has speedups to show agree. -/
theorem LevelResults.sameNumbers {results : LevelResults} {own : SpeedupGroup}
    (grouped : SpeedupChart.group results = .ok own) :
    results.SameNumbers (fun variant => Summary.cells results.level variant (results.get variant))
      (fun encoding => ⟨results.level.flag, results.get ⟨.bitmask, encoding⟩,
        results.get ⟨.union, encoding⟩⟩) own := by
  have picked (variant : Variant) : ElapsedGroup.aggregate ⟨results.level.flag,
      results.get ⟨.bitmask, variant.encoding⟩, results.get ⟨.union, variant.encoding⟩⟩
      variant.decoding = results.get variant := by
    rcases variant with ⟨decoding, encoding⟩
    cases decoding <;> rfl
  have stored := SpeedupChart.stored_of_group grouped
  refine ⟨fun _ => rfl, SpeedupChart.label_of_group grouped, picked, ?_, stored, ?_⟩
  · intro variant
    rw [picked]
    rfl
  · intro encoding
    simp only [Summary.cells, stored]
    rfl

/-- For all levels whose speedups can be shown, the summary and the charts show the same
numbers, level by level and in the same order. Both renderings of the summary have, below the
header, four rows for each level, in the fixed order of the variants, and no others. Every
chart has one category for each level and no other. -/
theorem views_show_same_numbers {levels : List LevelResults} {settings : SpeedupSettings}
    {speedups : SpeedupChart} (made : SpeedupChart.ofLevels levels settings = .ok speedups)
    (elapsedSettings : ElapsedSettings) :
    let elapsed (encoding : Encoding) := ElapsedChart.ofLevels levels encoding elapsedSettings
    ∃ body : List (List String),
      Summary.decodeSeparated (Summary.csv levels) = Summary.header :: body ∧
      Summary.decodeFramed (Summary.table levels) = Summary.header :: body ∧
      body.length = 4 * levels.length ∧
      (∀ encoding, (elapsed encoding).groups.length = levels.length) ∧
      speedups.groups.length = levels.length ∧
      ∀ index results, levels[index]? = some results →
        ∃ row elapsedGroup speedupGroup,
          (∀ place variant, Variant.all[place]? = some variant →
            body[4 * index + place]? = some (row variant)) ∧
          (∀ encoding, (elapsed encoding).groups[index]? = some (elapsedGroup encoding)) ∧
          speedups.groups[index]? = some speedupGroup ∧
          results.SameNumbers row elapsedGroup speedupGroup := by
  intro elapsed
  have areRows : ∀ row ∈ Summary.rows levels, Summary.IsRow row := fun _ => Summary.isRow_of_mem
  obtain ⟨grouped, -⟩ := (SpeedupChart.ofLevels_eq_ok_iff _ _ _).1 made
  refine ⟨Summary.body levels, Summary.decodeSeparated_separated areRows,
    Summary.decodeFramed_framed areRows (by simp [Summary.rows]), ?_, ?_, grouped.length_eq.symm,
    ?_⟩
  · have length := Summary.length_rows levels
    rw [show Summary.rows levels = Summary.header :: Summary.body levels from rfl,
      List.length_cons] at length
    omega
  · intro encoding
    exact List.length_map _
  · intro index results here
    obtain ⟨inside, rfl⟩ := List.getElem?_eq_some_iff.1 here
    have shown : index < speedups.groups.length := grouped.length_eq ▸ inside
    refine ⟨_, _, speedups.groups[index], ?_, ?_, List.getElem?_eq_getElem shown,
      LevelResults.sameNumbers (grouped.get inside shown)⟩
    · intro place variant ordered
      rw [Summary.getElem?_body levels index ordered, here]
      rfl
    · intro encoding
      rw [ElapsedChart.getElem?_groups_ofLevels, here]
      rfl

/-- Results of one level that stand twice keep their own rows and categories: the last of the
eight rows shows the speedup with stack encoding of the second category. -/
theorem views_show_same_numbers_twice :
    let sample (elapsed : Float) : Sample Float := ⟨[⟨1, elapsed, 0.0⟩], by simp⟩
    let results (factor : Float) := LevelResults.ofSamples .O2 (.ofFunction fun variant =>
      sample (if variant.decoding = .union then factor else 2.0))
    let levels := [results 1.0, results 3.0]
    ∃ speedups body, SpeedupChart.ofLevels levels {} = .ok speedups ∧
      Summary.decodeSeparated (Summary.csv levels) = Summary.header :: body ∧ body.length = 8 ∧
      ∃ row group, body[7]? = some row ∧ speedups.groups[1]? = some group ∧
        group.label = "-O2" ∧ row.getLast? = some (Decimal.fixed 4 group.stack) := by
  intro sample results levels
  obtain ⟨speedups, made⟩ : ∃ speedups, SpeedupChart.ofLevels levels {} = .ok speedups := ⟨_, rfl⟩
  obtain ⟨body, separated, -, length, -, -, every⟩ := views_show_same_numbers made {}
  obtain ⟨row, elapsed, group, rows, -, grouped, same⟩ := every 1 (results 3.0) rfl
  exact ⟨speedups, body, made, separated, length, _, group, rows 3 ⟨.union, .stack⟩ rfl, grouped,
    same.speedup_label, same.last_eq .stack⟩

end BenchFigures
