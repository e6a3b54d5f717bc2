import BenchFigures.Proofs.Paths
import BenchFigures.Proofs.TextBytes
import BenchFigures.Summary

/-!
# The two renderings of the summary

No cell of the summary holds white space, a semicolon or a bar, whatever the statistics
are: numbers are written with digits, a point and a sign, or as a word. So the separators
that a rendering adds are the only ones in it, and cutting at them gives the cells back.

In the framed table every cell is filled up with blanks to one width. All characters take
one byte, so the width that is measured in bytes is the one that the blanks are counted
for, and the bars of all lines stand in the same columns.
-/

namespace BenchFigures

namespace Text

/-! ### Cutting what was joined -/

/-- Lines that end with a separator are cut off one by one. -/
theorem pieces_flatMap_ended {separator : Char} {lines : List (List Char)}
    (absent : ∀ line ∈ lines, separator ∉ line) (rest : List Char) :
    pieces separator (lines.flatMap (· ++ [separator]) ++ rest) =
      lines ++ pieces separator rest := by
  induction lines with
  | nil => rfl
  | cons line others inductionHypothesis =>
    obtain ⟨absentHere, absentRest⟩ := List.forall_mem_cons.1 absent
    rw [List.flatMap_cons, List.append_assoc, List.append_assoc, List.singleton_append,
      pieces_append_separator, pieces_eq_singleton absentHere, inductionHypothesis absentRest,
      List.singleton_append, List.cons_append]

/-- Texts joined by a separator are its pieces, if there are any and none of them holds it. -/
theorem pieces_intercalate {separator : Char} {texts : List (List Char)} (filled : texts ≠ [])
    (absent : ∀ text ∈ texts, separator ∉ text) :
    pieces separator ([separator].intercalate texts) = texts := by
  induction texts with
  | nil => exact absurd rfl filled
  | cons text others inductionHypothesis =>
    obtain ⟨absentHere, absentRest⟩ := List.forall_mem_cons.1 absent
    cases others with
    | nil => rw [List.intercalate_singleton, pieces_eq_singleton absentHere]
    | cons second later =>
      rw [List.intercalate_cons_cons, List.append_assoc, List.singleton_append,
        pieces_append_separator, pieces_eq_singleton absentHere,
        inductionHypothesis (by simp) absentRest, List.singleton_append]

/-- What is neither in the separator nor in the texts is not in what they are joined to. -/
theorem not_mem_intercalate {separator : List Char} {texts : List (List Char)} {character : Char}
    (foreign : character ∉ separator) (absent : ∀ text ∈ texts, character ∉ text) :
    character ∉ separator.intercalate texts := by
  induction texts with
  | nil => simp
  | cons text others inductionHypothesis =>
    obtain ⟨absentHere, absentRest⟩ := List.forall_mem_cons.1 absent
    cases others with
    | nil => rwa [List.intercalate_singleton]
    | cons second later =>
      rw [List.intercalate_cons_cons, List.mem_append, List.mem_append]
      rintro ((own | between) | after)
      · exact absentHere own
      · exact foreign between
      · exact inductionHypothesis absentRest after

/-- A text takes as many bytes as it has characters if each of them takes one. -/
theorem utf8ByteSize_of_ascii {text : String}
    (ascii : ∀ character ∈ text.toList, character.toNat < 128) :
    text.utf8ByteSize = text.length := by
  rw [← String.ofList_toList (s := text), String.utf8ByteSize_ofList, String.length_ofList]
  generalize text.toList = characters at ascii
  induction characters with
  | nil => rfl
  | cons character rest inductionHypothesis =>
    obtain ⟨asciiHere, asciiRest⟩ := List.forall_mem_cons.1 ascii
    have single : character.utf8Size = 1 :=
      Char.utf8Size_eq_one_iff.2 (UInt32.le_iff_toNat_le.2 (Nat.le_of_lt_succ asciiHere))
    rw [String.utf8Len_cons, inductionHypothesis asciiRest, single, List.length_cons]

end Text

namespace Summary

open Text

/-! ### What cells are made of -/

/-- A character of a cell: it takes one byte, separates nothing and is no white space. Ends
of lines are white space. -/
structure IsCellCharacter (character : Char) : Prop where
  ascii : character.toNat < 128
  noSemicolon : character ≠ ';'
  noBar : character ≠ '|'
  unblank : isBlank character = false

instance : DecidablePred IsCellCharacter := fun character =>
  decidable_of_iff (character.toNat < 128 ∧ character ≠ ';' ∧ character ≠ '|' ∧
      isBlank character = false)
    ⟨fun ⟨ascii, noSemicolon, noBar, unblank⟩ => ⟨ascii, noSemicolon, noBar, unblank⟩,
      fun own => ⟨own.ascii, own.noSemicolon, own.noBar, own.unblank⟩⟩

/-- A text that a cell can hold. -/
def IsTidy (text : String) : Prop := ∀ character ∈ text.toList, IsCellCharacter character

namespace IsTidy

theorem append {first second : String} (firstTidy : IsTidy first) (secondTidy : IsTidy second) :
    IsTidy (first ++ second) := by
  intro character member
  rw [String.toList_append] at member
  exact (List.mem_append.1 member).elim (firstTidy character) (secondTidy character)

/-- Digits belong into a cell. -/
theorem ofNat (number : Nat) : IsTidy (toString number) := by
  intro character member
  have digit : character.isDigit = true :=
    Nat.isDigit_of_mem_toDigits (by omega) (by omega) (Nat.toList_repr ▸ member)
  simp only [Char.isDigit, Bool.and_eq_true, decide_eq_true_eq] at digit
  have low : 48 ≤ character.toNat := digit.1
  have high : character.toNat ≤ 57 := digit.2
  refine ⟨by omega, ?_, ?_, ?_⟩
  · rintro rfl
    exact absurd high (by decide)
  · rintro rfl
    exact absurd high (by decide)
  · rw [Bool.eq_false_iff, ne_eq, isBlank_iff]
    omega

/-- Placing a point adds zeros and the point. -/
theorem withPoint {digits : String} (tidy : IsTidy digits) (places : Nat) :
    IsTidy (Decimal.withPoint digits places) := by
  rw [Decimal.withPoint]
  split
  · exact tidy
  · have filled : ∀ character ∈ List.replicate (places + 1 - digits.length) '0' ++ digits.toList,
        IsCellCharacter character := by
      intro character member
      rcases List.mem_append.1 member with zero | own
      · rw [List.eq_of_mem_replicate zero]
        decide
      · exact tidy character own
    refine append (append ?_ ?_) ?_
    · intro character member
      rw [String.toList_ofList] at member
      exact filled character (List.mem_of_mem_take member)
    · intro character member
      simp at member
      rw [member]
      decide
    · intro character member
      rw [String.toList_ofList] at member
      exact filled character (List.mem_of_mem_drop member)

/-- A sign belongs into a cell. -/
theorem signed {size : String} (tidy : IsTidy size) (negative : Bool) :
    IsTidy (Decimal.signed negative size) := by
  cases negative with
  | false => exact tidy
  | true => exact append (by simp [IsTidy]; decide) tidy

/-- However a number comes out, it can stand in a cell. -/
theorem fixed (places : Nat) (number : Float) : IsTidy (Decimal.fixed places number) := by
  rw [Decimal.fixed, Decimal.write]
  cases Binary64.unpack number with
  | notANumber => simp [IsTidy]; decide
  | infinity sign => exact signed (by simp [IsTidy]; decide) _
  | zero sign => exact (withPoint (ofNat 0) places).signed _
  | finite sign significand exponent bounds => exact (withPoint (ofNat _) places).signed _

/-- What is no blank and no end of a line stands between blanks as it was. -/
theorem solid {text : String} (tidy : IsTidy text) : Solid isBlank text.toList :=
  .of_forall fun character member => (tidy character member).unblank

/-- A separator that is not for cells is in no cell. -/
theorem not_mem {text : String} (tidy : IsTidy text) (separator : Char)
    (foreign : ¬ IsCellCharacter separator) : separator ∉ text.toList :=
  fun member => foreign (tidy separator member)

end IsTidy

/-! ### The rows -/

/-- A row of the summary: eight texts that cells can hold. -/
structure IsRow (row : List String) : Prop where
  length_eq : row.length = 8
  tidy : ∀ text ∈ row, IsTidy text

/-- A row is not empty. -/
theorem IsRow.ne_nil {row : List String} (isRow : IsRow row) : row ≠ [] := by
  rintro rfl
  exact absurd isRow.length_eq (by decide)

/-- The titles of the columns are a row. -/
theorem isRow_header : IsRow header := by
  refine ⟨rfl, ?_⟩
  simp [header, IsTidy]
  decide

/-- The cells of a variant at a level are a row, whatever its statistics are. -/
theorem isRow_cells (level : OptimizationLevel) (variant : Variant) (aggregate : Aggregate Float) :
    IsRow (cells level variant aggregate) := by
  have flag : IsTidy level.flag := by
    cases level <;> simp [OptimizationLevel.flag, OptimizationLevel.name, IsTidy] <;> decide
  have name : IsTidy variant.name := by
    rcases variant with ⟨decoding, encoding⟩
    cases decoding <;> cases encoding <;>
      simp [Variant.name, Decoding.name, Encoding.name, IsTidy] <;> decide
  refine ⟨rfl, ?_⟩
  simp only [cells, List.forall_mem_cons, List.not_mem_nil, false_implies, implies_true, and_true]
  refine ⟨flag, name, .ofNat _, .fixed _ _, .fixed _ _, .fixed _ _, .fixed _ _, ?_⟩
  cases aggregate.speedup with
  | none => simp [IsTidy]
  | some speedup => exact .fixed _ _

/-- Every row of the summary is one. -/
theorem isRow_of_mem {levels : List LevelResults} {row : List String} (member : row ∈ rows levels) :
    IsRow row := by
  rcases List.mem_cons.1 member with rfl | inLevels
  · exact isRow_header
  · obtain ⟨results, -, ofVariant⟩ := List.mem_flatMap.1 inLevels
    obtain ⟨variant, -, rfl⟩ := List.mem_map.1 ofVariant
    exact isRow_cells _ _ _

/-- There is a row for the header and one for each variant at each level. -/
theorem length_rows (levels : List LevelResults) :
    (rows levels).length = 1 + 4 * levels.length := by
  have four (results : LevelResults) : (Variant.all.map fun variant =>
      cells results.level variant (results.get variant)).length = 4 := rfl
  simp only [rows, List.length_cons, List.length_flatMap, four]
  simp
  omega

/-! ### Lines of cells between semicolons -/

/-- The line of a row. -/
def csvLine (row : List String) : List Char := [';'].intercalate (row.map String.toList)

/-- Rows are written as their lines, each with its end. -/
theorem toList_separated (rows : List (List String)) :
    (separated rows).toList = (rows.map csvLine).flatMap (· ++ ['\n']) := by
  simp only [separated, String.toList_join, List.flatMap_map, String.toList_append,
    String.toList_intercalate]
  rfl

/-- The line of a row consists of the row's cells. -/
theorem pieces_csvLine {row : List String} (isRow : IsRow row) :
    pieces ';' (csvLine row) = row.map String.toList := by
  apply pieces_intercalate
  · intro empty
    have length := congrArg List.length empty
    simp [isRow.length_eq] at length
  · intro text member
    obtain ⟨own, inRow, rfl⟩ := List.mem_map.1 member
    exact (isRow.tidy own inRow).not_mem _ fun cell => cell.noSemicolon rfl

/-- No line of cells breaks off within a row. -/
theorem newline_not_mem_csvLine {row : List String} (isRow : IsRow row) : '\n' ∉ csvLine row := by
  apply not_mem_intercalate (by decide)
  intro text member
  obtain ⟨own, inRow, rfl⟩ := List.mem_map.1 member
  exact (isRow.tidy own inRow).not_mem _ (by decide)

/-! ### Lines of a framed table -/

/-- Cells between bars. -/
def barred : List (List Char) → List Char
  | [] => ['|']
  | cell :: rest => '|' :: (cell ++ barred rest)

/-- Cutting at the bars gives the cells back, between nothing and nothing. -/
theorem pieces_barred {cells : List (List Char)} (absent : ∀ cell ∈ cells, '|' ∉ cell) :
    pieces '|' (barred cells) = [] :: (cells ++ [[]]) := by
  have shifted (cells : List (List Char)) :
      barred cells = '|' :: (cells.flatMap (· ++ ['|']) ++ []) := by
    induction cells with
    | nil => rfl
    | cons cell rest inductionHypothesis => simp [barred, inductionHypothesis]
  rw [shifted, pieces, if_pos rfl, pieces_flatMap_ended absent]
  rfl

/-- A line of a framed table shows some texts in cells of one width: bars stand exactly
around the cells, and a cell without the blanks at its ends is the text. -/
structure Aligned (width : Nat) (texts : List (List Char)) (framed : List Char) : Prop where
  length_eq : framed.length = texts.length * (width + 1) + 1
  bars : ∀ column, framed[column]? = some '|' ↔ ∃ bar ≤ texts.length, column = bar * (width + 1)
  between : ∀ place (inside : place < texts.length),
    trim ((framed.drop (place * (width + 1) + 1)).take width) = texts[place]

/-- Cells of one width without bars in them are aligned. -/
theorem aligned_barred {width : Nat} {cells texts : List (List Char)}
    (shown : List.Forall₂ (fun cell text => cell.length = width ∧ '|' ∉ cell ∧ trim cell = text)
      cells texts) :
    Aligned width texts (barred cells) := by
  induction shown with
  | nil =>
    refine ⟨by simp [barred], ?_, by simp⟩
    intro column
    cases column <;> simp [barred]
  | @cons cell text cells texts here _ inductionHypothesis =>
    obtain ⟨length, noBar, trimmed⟩ := here
    have later : (barred (cell :: cells)).drop (width + 1) = barred cells := by
      rw [barred, List.drop_succ_cons, List.drop_left' length]
    refine ⟨?_, ?_, ?_⟩
    · rw [barred, List.length_cons, List.length_append, inductionHypothesis.length_eq, length,
        List.length_cons, Nat.succ_mul]
      omega
    · intro column
      rcases Nat.lt_or_ge column (width + 1) with first | further
      · -- Within the first cell the only bar is the one before it.
        have onlyFirst : (∃ bar ≤ (text :: texts).length, column = bar * (width + 1)) ↔
            column = 0 := by
          constructor
          · rintro ⟨bar, -, rfl⟩
            cases bar with
            | zero => exact Nat.zero_mul _
            | succ bar =>
              rw [Nat.succ_mul] at first
              omega
          · rintro rfl
            exact ⟨0, Nat.zero_le _, (Nat.zero_mul _).symm⟩
        rw [onlyFirst, barred]
        cases column with
        | zero => simp
        | succ inner =>
          rw [List.getElem?_cons_succ, List.getElem?_append_left (by omega)]
          refine ⟨fun found => absurd (List.mem_of_getElem? found) noBar, by simp⟩
      · obtain ⟨rest, rfl⟩ := Nat.exists_eq_add_of_le further
        rw [← List.getElem?_drop, later, inductionHypothesis.bars]
        constructor
        · rintro ⟨bar, within, rfl⟩
          exact ⟨bar + 1, Nat.succ_le_succ within, by rw [Nat.succ_mul, Nat.add_comm]⟩
        · rintro ⟨bar, within, same⟩
          cases bar with
          | zero => omega
          | succ bar =>
            refine ⟨bar, Nat.le_of_succ_le_succ within, ?_⟩
            rw [Nat.succ_mul] at same
            omega
    · intro place inside
      cases place with
      | zero =>
        rw [barred, Nat.zero_mul, List.drop_succ_cons, List.drop_zero, List.take_left' length]
        exact trimmed
      | succ place =>
        have shift : (place + 1) * (width + 1) + 1 = (width + 1) + (place * (width + 1) + 1) := by
          rw [Nat.succ_mul]
          omega
        rw [shift, ← List.drop_drop, later]
        exact inductionHypothesis.between place (Nat.lt_of_succ_lt_succ inside)

/-- A cell of the framed table is a bar and the text between blanks; the last one is closed
by another bar. -/
theorem toList_framedRow {width : Nat} {row : List String} (filled : row ≠ []) :
    (framedRow width row).toList = barred (row.map fun text => (centred text width).toList) := by
  induction row with
  | nil => exact absurd rfl filled
  | cons text rest inductionHypothesis =>
    cases rest with
    | nil => simp [framedRow, cell, barred]
    | cons second others =>
      have further := inductionHypothesis (by simp)
      simp only [framedRow, cell, String.toList_append, further]
      simp [barred]

/-- Centring adds blanks at both ends, up to the width. -/
theorem toList_centred (text : String) (width : Nat) :
    ∃ before after, (centred text width).toList =
        List.replicate before ' ' ++ text.toList ++ List.replicate after ' ' ∧
      before + after = width - text.length := by
  refine ⟨(width - text.length) / 2, width - text.length - (width - text.length) / 2, ?_, by omega⟩
  simp [centred, repeated]

/-- A tidy text that fits, once centred, is a cell of its width. -/
theorem centred_shows {text : String} {width : Nat} (tidy : IsTidy text)
    (fits : text.length ≤ width) :
    (centred text width).toList.length = width ∧ '|' ∉ (centred text width).toList ∧
      trim (centred text width).toList = text.toList := by
  obtain ⟨before, after, whole, blanks⟩ := toList_centred text width
  have blank (count : Nat) : ∀ character ∈ List.replicate count ' ', isBlank character = true := by
    intro character member
    rw [List.eq_of_mem_replicate member]
    decide
  rw [whole]
  refine ⟨?_, ?_, trim_between (blank before) tidy.solid (blank after)⟩
  · simp only [List.length_append, List.length_replicate, String.length_toList]
    omega
  · have noBar := tidy.not_mem '|' (by decide)
    simp [noBar]

/-- The line of a row is aligned if every text of the row fits. -/
theorem aligned_framedRow {width : Nat} {row : List String} (isRow : IsRow row)
    (fits : ∀ text ∈ row, text.length ≤ width) :
    Aligned width (row.map String.toList) (framedRow width row).toList := by
  rw [toList_framedRow isRow.ne_nil]
  apply aligned_barred
  rw [List.forall₂_map_left_iff, List.forall₂_map_right_iff, List.forall₂_same]
  exact fun text member => centred_shows (isRow.tidy text member) (fits text member)

/-- Cutting the line of a row at its bars gives the row back, up to blanks around the texts. -/
theorem trim_pieces_framedRow {width : Nat} {row : List String} (isRow : IsRow row)
    (fits : ∀ text ∈ row, text.length ≤ width) :
    (pieces '|' (framedRow width row).toList).tail.dropLast.map trim = row.map String.toList := by
  have shows : ∀ text ∈ row, '|' ∉ (centred text width).toList ∧
      trim (centred text width).toList = text.toList := fun text member =>
    (centred_shows (isRow.tidy text member) (fits text member)).2
  rw [toList_framedRow isRow.ne_nil, pieces_barred (List.forall_mem_map.2 fun text member =>
    (shows text member).1), List.tail_cons, List.dropLast_concat, List.map_map]
  exact List.map_congr_left fun text member => (shows text member).2

/-- The characters of a framed line are those of cells, bars and blanks. -/
theorem character_of_framedRow {width : Nat} {row : List String} (isRow : IsRow row)
    {character : Char} (member : character ∈ (framedRow width row).toList) :
    IsCellCharacter character ∨ character = '|' ∨ character = ' ' := by
  have inBarred (cells : List (List Char)) (inside : character ∈ barred cells) :
      character = '|' ∨ ∃ cell ∈ cells, character ∈ cell := by
    induction cells with
    | nil => exact .inl (List.mem_singleton.1 inside)
    | cons cell rest inductionHypothesis =>
      rw [barred, List.mem_cons, List.mem_append] at inside
      rcases inside with bar | own | later
      · exact .inl bar
      · exact .inr ⟨cell, List.mem_cons_self, own⟩
      · exact (inductionHypothesis later).imp_right fun ⟨other, inRest, own⟩ =>
          ⟨other, List.mem_cons_of_mem _ inRest, own⟩
  rw [toList_framedRow isRow.ne_nil] at member
  rcases inBarred _ member with bar | ⟨cell, inCells, own⟩
  · exact .inr (.inl bar)
  · obtain ⟨text, inRow, rfl⟩ := List.mem_map.1 inCells
    obtain ⟨before, after, whole, -⟩ := toList_centred text width
    rw [whole, List.mem_append, List.mem_append] at own
    rcases own with (blank | inText) | blank
    · exact .inr (.inr (List.eq_of_mem_replicate blank))
    · exact .inl (isRow.tidy text inRow character inText)
    · exact .inr (.inr (List.eq_of_mem_replicate blank))

/-! ### The width of the cells and of the table -/

/-- The greatest measure of some items, and of a start, bounds all of them and is one. -/
theorem foldl_max_spec {α : Type} (measure : α → Nat) (items : List α) (start : Nat) :
    let greatest := items.foldl (fun width item => max width (measure item)) start
    start ≤ greatest ∧ (∀ item ∈ items, measure item ≤ greatest) ∧
      (greatest = start ∨ ∃ item ∈ items, measure item = greatest) := by
  induction items generalizing start with
  | nil => simp
  | cons item rest inductionHypothesis =>
    obtain ⟨bound, bounds, attained⟩ := inductionHypothesis (max start (measure item))
    refine ⟨Nat.le_trans (Nat.le_max_left _ _) bound,
      List.forall_mem_cons.2 ⟨Nat.le_trans (Nat.le_max_right _ _) bound, bounds⟩, ?_⟩
    rcases attained with same | ⟨other, inRest, own⟩
    · rw [List.foldl_cons, same]
      rcases Nat.le_total start (measure item) with larger | smaller
      · exact .inr ⟨item, List.mem_cons_self, (Nat.max_eq_right larger).symm⟩
      · exact .inl (Nat.max_eq_left smaller)
    · exact .inr ⟨other, List.mem_cons_of_mem _ inRest, own⟩

/-- The greatest measure of at least one item is that of an item. -/
theorem foldl_max_attained {α : Type} (measure : α → Nat) (items : List α) (filled : items ≠ []) :
    ∃ item ∈ items, measure item = items.foldl (fun width item => max width (measure item)) 0 := by
  obtain ⟨-, bounds, none | attained⟩ := foldl_max_spec measure items 0
  · obtain ⟨item, member⟩ := List.exists_mem_of_ne_nil items filled
    have least := bounds item member
    rw [none] at least ⊢
    exact ⟨item, member, Nat.le_zero.1 least⟩
  · exact attained

/-- The width of the cells is two more than that of the longest text. -/
theorem cellWidth_spec {rows : List (List String)} (areRows : ∀ row ∈ rows, IsRow row)
    (filled : rows ≠ []) :
    (∀ row ∈ rows, ∀ text ∈ row, text.length + 2 ≤ cellWidth rows) ∧
      ∃ row ∈ rows, ∃ text ∈ row, text.length + 2 = cellWidth rows := by
  have size {row : List String} (inRows : row ∈ rows) {text : String} (inRow : text ∈ row) :
      text.utf8ByteSize = text.length :=
    utf8ByteSize_of_ascii fun character own =>
      ((areRows row inRows).tidy text inRow character own).ascii
  obtain ⟨-, bounds, -⟩ := foldl_max_spec String.utf8ByteSize rows.flatten 0
  constructor
  · intro row inRows text inRow
    have bound := bounds text (List.mem_flatten.2 ⟨row, inRows, inRow⟩)
    rw [size inRows inRow] at bound
    exact Nat.add_le_add_right bound 2
  · have some : rows.flatten ≠ [] := by
      obtain ⟨row, inRows⟩ := List.exists_mem_of_ne_nil rows filled
      have length := (areRows row inRows).length_eq
      intro empty
      rw [List.flatten_eq_nil_iff.1 empty row inRows] at length
      exact absurd length (by decide)
    obtain ⟨text, member, same⟩ := foldl_max_attained String.utf8ByteSize _ some
    obtain ⟨row, inRows, inRow⟩ := List.mem_flatten.1 member
    rw [size inRows inRow] at same
    exact ⟨row, inRows, text, inRow, congrArg (· + 2) same⟩

/-- Every text fits into a cell. -/
theorem fits_of_mem {rows : List (List String)} (areRows : ∀ row ∈ rows, IsRow row)
    (filled : rows ≠ []) {row : List String} (inRows : row ∈ rows) :
    ∀ text ∈ row, text.length ≤ cellWidth rows := fun text inRow =>
  Nat.le_of_add_right_le ((cellWidth_spec areRows filled).1 row inRows text inRow)

/-- The length of a line of the framed table: eight cells, each with its bar, and the last
bar. -/
def frameWidth (width : Nat) : Nat := 8 * (width + 1) + 1

/-- The framed table is its lines between two rules as long as each of them. -/
theorem toList_framed {rows : List (List String)} (areRows : ∀ row ∈ rows, IsRow row)
    (filled : rows ≠ []) :
    let rule := List.replicate (frameWidth (cellWidth rows)) '-'
    (framed rows).toList =
      (rule :: rows.map fun row => (framedRow (cellWidth rows) row).toList).flatMap (· ++ ['\n']) ++
        rule := by
  have width : ((rows.map (framedRow (cellWidth rows))).foldl
      (fun width line => max width line.utf8ByteSize) 0) = frameWidth (cellWidth rows) := by
    obtain ⟨line, member, same⟩ := foldl_max_attained String.utf8ByteSize
      (rows.map (framedRow (cellWidth rows))) (by simpa using filled)
    obtain ⟨row, inRows, rfl⟩ := List.mem_map.1 member
    have isRow := areRows row inRows
    have ascii : ∀ character ∈ (framedRow (cellWidth rows) row).toList, character.toNat < 128 := by
      intro character own
      rcases character_of_framedRow isRow own with cell | rfl | rfl
      · exact cell.ascii
      · decide
      · decide
    have length := (aligned_framedRow isRow (fits_of_mem areRows filled inRows)).length_eq
    rw [List.length_map, isRow.length_eq, String.length_toList] at length
    rw [← same, utf8ByteSize_of_ascii ascii, length, frameWidth]
  simp only [framed, width, repeated]
  simp [List.flatMap_map, Function.comp_def]

/-! ### Reading the renderings back -/

/-- The cells between semicolons, line by line. Every line has an end. -/
def decodeSeparated (text : String) : List (List String) :=
  (pieces '\n' text.toList).dropLast.map fun line => (pieces ';' line).map String.ofList

/-- The cells between bars without the blanks around them, for each line between the rules. -/
def decodeFramed (text : String) : List (List String) :=
  (pieces '\n' text.toList).tail.dropLast.map fun framed =>
    ((pieces '|' framed).tail.dropLast.map trim).map String.ofList

/-- What the two renderings of one summary look like. -/
structure Renders (lines framedLines : List (List Char)) (width : Nat) (csv table : String) :
    Prop where
  /-- The lines of cells all have their end. -/
  ended : pieces '\n' csv.toList = lines ++ [[]]
  eight : ∀ line ∈ lines, (pieces ';' line).length = 8
  tidy : ∀ line ∈ lines, ∀ cell ∈ pieces ';' line, ∀ character ∈ cell, IsCellCharacter character
  /-- The width is two more than that of the longest cell. -/
  roomy : ∀ line ∈ lines, ∀ cell ∈ pieces ';' line, cell.length + 2 ≤ width
  tight : ∃ line ∈ lines, ∃ cell ∈ pieces ';' line, cell.length + 2 = width
  /-- The framed lines stand between two rules, and all are equally long. -/
  ruled : pieces '\n' table.toList =
    List.replicate (frameWidth width) '-' ::
      (framedLines ++ [List.replicate (frameWidth width) '-'])
  even : ∀ framed ∈ framedLines, framed.length = frameWidth width
  /-- Each framed line shows the cells of the line of cells that it stands for. -/
  aligned : List.Forall₂ (fun line framed => Aligned width (pieces ';' line) framed) lines
    framedLines

section Rows

variable {rows : List (List String)} (areRows : ∀ row ∈ rows, IsRow row)

include areRows

/-- Cutting the lines of cells apart gives the lines of the rows. -/
theorem pieces_separated :
    pieces '\n' (separated rows).toList = rows.map csvLine ++ [[]] := by
  rw [toList_separated, ← List.append_nil (List.flatMap _ _), pieces_flatMap_ended]
  · rfl
  · intro line member
    obtain ⟨row, inRows, rfl⟩ := List.mem_map.1 member
    exact newline_not_mem_csvLine (areRows row inRows)

/-- Cutting the framed table apart gives the framed lines of the rows between two rules. -/
theorem pieces_framed (filled : rows ≠ []) :
    let rule := List.replicate (frameWidth (cellWidth rows)) '-'
    pieces '\n' (framed rows).toList =
      rule :: ((rows.map fun row => (framedRow (cellWidth rows) row).toList) ++ [rule]) := by
  have unbroken : '\n' ∉ List.replicate (frameWidth (cellWidth rows)) '-' := by simp
  rw [toList_framed areRows filled, pieces_flatMap_ended, pieces_eq_singleton unbroken]
  · rfl
  · refine List.forall_mem_cons.2 ⟨unbroken, ?_⟩
    intro line member
    obtain ⟨row, inRows, rfl⟩ := List.mem_map.1 member
    intro newline
    rcases character_of_framedRow (areRows row inRows) newline with cell | bar | blank
    · exact absurd cell (by decide)
    · exact absurd bar (by decide)
    · exact absurd blank (by decide)

/-- Every row is aligned in the framed table. -/
theorem aligned_of_mem (filled : rows ≠ []) {row : List String} (inRows : row ∈ rows) :
    Aligned (cellWidth rows) (row.map String.toList) (framedRow (cellWidth rows) row).toList :=
  aligned_framedRow (areRows row inRows) (fits_of_mem areRows filled inRows)

/-- What both renderings of some rows look like. -/
theorem renders_rows (filled : rows ≠ []) :
    Renders (rows.map csvLine) (rows.map fun row => (framedRow (cellWidth rows) row).toList)
      (cellWidth rows) (separated rows) (framed rows) := by
  have cut {row : List String} (inRows : row ∈ rows) := pieces_csvLine (areRows row inRows)
  obtain ⟨roomy, row, inRows, text, inRow, tight⟩ := cellWidth_spec areRows filled
  refine ⟨pieces_separated areRows, ?_, ?_, ?_, ?_, pieces_framed areRows filled, ?_, ?_⟩
  · rw [List.forall_mem_map]
    intro row inRows
    rw [cut inRows, List.length_map, (areRows row inRows).length_eq]
  · rw [List.forall_mem_map]
    intro row inRows
    rw [cut inRows, List.forall_mem_map]
    exact (areRows row inRows).tidy
  · rw [List.forall_mem_map]
    intro row inRows
    rw [cut inRows, List.forall_mem_map]
    exact roomy row inRows
  · refine ⟨csvLine row, List.mem_map_of_mem inRows, text.toList, ?_, tight⟩
    rw [cut inRows]
    exact List.mem_map_of_mem inRow
  · rw [List.forall_mem_map]
    intro row inRows
    have length := (aligned_of_mem areRows filled inRows).length_eq
    rwa [List.length_map, (areRows row inRows).length_eq] at length
  · rw [List.forall₂_map_left_iff, List.forall₂_map_right_iff, List.forall₂_same]
    intro row inRows
    rw [cut inRows]
    exact aligned_of_mem areRows filled inRows

/-- Reading the lines of cells gives the rows. -/
theorem decodeSeparated_separated : decodeSeparated (separated rows) = rows := by
  rw [decodeSeparated, pieces_separated areRows, List.dropLast_concat, List.map_map]
  have own : ∀ row ∈ rows, (pieces ';' (csvLine row)).map String.ofList = row := by
    intro row inRows
    rw [pieces_csvLine (areRows row inRows), List.map_map]
    simp [Function.comp_def]
  exact (List.map_congr_left own).trans (List.map_id' rows)

/-- Reading the framed table gives the rows. -/
theorem decodeFramed_framed (filled : rows ≠ []) : decodeFramed (framed rows) = rows := by
  rw [decodeFramed, pieces_framed areRows filled, List.tail_cons, List.dropLast_concat,
    List.map_map]
  have own : ∀ row ∈ rows,
      ((pieces '|' (framedRow (cellWidth rows) row).toList).tail.dropLast.map trim).map
        String.ofList = row := by
    intro row inRows
    rw [trim_pieces_framedRow (areRows row inRows) (fits_of_mem areRows filled inRows),
      List.map_map]
    simp [Function.comp_def]
  exact (List.map_congr_left own).trans (List.map_id' rows)

end Rows

/-- The two renderings of the summary have the same rows of eight cells, in lines that fall
apart at their separators and in aligned columns, whatever the statistics are. -/
theorem renderings_carry_rows (levels : List LevelResults) :
    ∃ lines framedLines width,
      Renders lines framedLines width (csv levels) (table levels) ∧
      lines.length = 1 + 4 * levels.length ∧
      (pieces '\n' (table levels).toList).length = 3 + 4 * levels.length ∧
      decodeSeparated (csv levels) = rows levels ∧ decodeFramed (table levels) = rows levels := by
  have areRows : ∀ row ∈ rows levels, IsRow row := fun row => isRow_of_mem
  have filled : rows levels ≠ [] := by simp [rows]
  have renders := renders_rows areRows filled
  refine ⟨_, _, _, renders, ?_, ?_, decodeSeparated_separated areRows,
    decodeFramed_framed areRows filled⟩
  · rw [List.length_map, length_rows]
  · rw [table, renders.ruled]
    simp only [List.length_cons, List.length_append, List.length_map, length_rows,
      List.length_nil]
    omega

end Summary

end BenchFigures
