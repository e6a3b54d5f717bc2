import BenchFigures.Files.Tree

/-!
# Joined paths

Cutting a text at a separator undoes joining with it. So the pieces of a path below
a directory are those of the directory, without the empty piece after a slash at its
end, and then those of what is below. For the name of an entry this is one more
piece.
-/

namespace BenchFigures

namespace Text

/-- A separator between two texts cuts exactly between their pieces. -/
theorem pieces_append_separator (separator : Char) (first second : List Char) :
    pieces separator (first ++ separator :: second) =
      pieces separator first ++ pieces separator second := by
  induction first with
  | nil => simp [pieces]
  | cons character rest inductionHypothesis =>
    have filled := pieces_ne_nil separator rest
    rw [List.cons_append, pieces, pieces, inductionHypothesis]
    by_cases same : character = separator
    · simp [same]
    · simp only [same, if_false]
      cases cut : pieces separator rest with
      | nil => exact absurd cut filled
      | cons piece others => rfl

/-- A text without the separator is one piece. -/
theorem pieces_eq_singleton {separator : Char} {text : List Char} (absent : separator ∉ text) :
    pieces separator text = [text] := by
  induction text with
  | nil => rfl
  | cons character rest inductionHypothesis =>
    obtain ⟨differs, restAbsent⟩ := List.ne_and_not_mem_of_not_mem_cons absent
    rw [pieces, if_neg (Ne.symm differs), inductionHypothesis restAbsent]

/-- No piece holds the separator. -/
theorem not_mem_of_mem_pieces {separator : Char} {text piece : List Char}
    (member : piece ∈ pieces separator text) : separator ∉ piece := by
  induction text generalizing piece with
  | nil => simp [pieces] at member; simp [member]
  | cons character rest inductionHypothesis =>
    rw [pieces] at member
    by_cases same : character = separator
    · rw [if_pos same] at member
      rcases List.mem_cons.1 member with rfl | inRest
      · simp
      · exact inductionHypothesis inRest
    · rw [if_neg same] at member
      cases cut : pieces separator rest with
      | nil => exact absurd cut (pieces_ne_nil separator rest)
      | cons first others =>
        rw [cut] at member
        rcases List.mem_cons.1 member with rfl | inOthers
        · have firstFree := inductionHypothesis (cut ▸ List.mem_cons_self)
          simp [Ne.symm same, firstFree]
        · exact inductionHypothesis (cut ▸ List.mem_cons_of_mem _ inOthers)

/-- The last piece is empty exactly if the text is empty or ends with the separator. -/
theorem getLast?_pieces_eq_nil_iff (separator : Char) (text : List Char) :
    (pieces separator text).getLast? = some [] ↔ text = [] ∨ text.getLast? = some separator := by
  induction text with
  | nil => simp [pieces]
  | cons character rest inductionHypothesis =>
    have filled := pieces_ne_nil separator rest
    rw [pieces]
    cases cut : pieces separator rest with
    | nil => exact absurd cut filled
    | cons first others =>
      rw [cut] at inductionHypothesis
      by_cases same : character = separator
      · cases rest <;> simp_all [List.getLast?_cons_cons]
      · cases others with
        | cons second later => cases rest <;> simp_all [pieces, List.getLast?_cons_cons]
        | nil =>
          have joined := intercalate_pieces separator rest
          rw [cut] at joined
          cases rest with
          | nil => simp [same]
          | cons next further =>
            have begun : first ≠ [] := by
              rintro rfl
              simp [List.intercalate] at joined
            simpa [same, begun] using inductionHypothesis

end Text

/-- What makes a text the name of an entry. -/
theorem isEntryName_iff (text : String) :
    isEntryName text ↔ text ≠ "" ∧ text ≠ "." ∧ text ≠ ".." ∧ '/' ∉ text.toList := by
  simp [isEntryName, and_assoc]

namespace Path

/-- The pieces of a path that lie below it, too: all of them but the empty piece
after a slash at its end, or that of the empty path. -/
def stem (path : Path) : List String :=
  if path.text = "" ∨ path.endsWithSlash then path.pieces.dropLast else path.pieces

/-- What joining an entry name to a path comes to. -/
theorem join_name (base : Path) {name : String} (named : isEntryName name) :
    base.join ⟨name⟩ =
      if base.text = "" ∨ base.endsWithSlash then ⟨base.text ++ name⟩
      else ⟨base.text ++ "/" ++ name⟩ := by
  obtain ⟨-, -, -, unslashed⟩ := (isEntryName_iff name).1 named
  have relative : (Path.mk name).isAbsolute = false := by
    rw [isAbsolute, decide_eq_false_iff_not]
    intro leading
    exact unslashed (List.mem_of_mem_head? leading)
  simp [join, relative]

/-- The pieces of a path below another. -/
theorem pieces_join (base : Path) {name : String} (named : isEntryName name) :
    (base.join ⟨name⟩).pieces = base.stem ++ [name] := by
  obtain ⟨-, -, -, unslashed⟩ := (isEntryName_iff name).1 named
  have single := Text.pieces_eq_singleton unslashed
  rw [join_name base named, stem]
  by_cases slash : base.endsWithSlash
  · obtain ⟨start, text⟩ : ∃ start, base.text.toList = start ++ ['/'] := by
      simpa [endsWithSlash, List.getLast?_eq_some_iff] using slash
    have whole : Text.pieces '/' base.text.toList = Text.pieces '/' start ++ [[]] := by
      rw [text, Text.pieces_append_separator]
      rfl
    have longer : Text.pieces '/' (base.text ++ name).toList =
        Text.pieces '/' start ++ [name.toList] := by
      rw [String.toList_append, text, List.append_assoc, List.singleton_append,
        Text.pieces_append_separator, single]
    simp only [slash, or_true, if_true, pieces, whole, longer]
    simp
  · by_cases empty : base.text = ""
    · simp [empty, pieces, single, Text.pieces]
    · have longer : Text.pieces '/' (base.text ++ "/" ++ name).toList =
          Text.pieces '/' base.text.toList ++ [name.toList] := by
        rw [String.toList_append, String.toList_append, List.append_assoc]
        change Text.pieces '/' (base.text.toList ++ '/' :: name.toList) = _
        rw [Text.pieces_append_separator, single]
      simp only [empty, slash, Bool.false_eq_true, or_self, if_false, pieces, longer]
      simp

/-- A path that ends in an entry name continues with all its pieces. -/
theorem stem_join (base : Path) {name : String} (named : isEntryName name) :
    (base.join ⟨name⟩).stem = base.stem ++ [name] := by
  obtain ⟨filled, -, -, unslashed⟩ := (isEntryName_iff name).1 named
  have last : ∃ start final, name.toList = start ++ [final] ∧ final ≠ '/' := by
    have listed : name.toList ≠ [] := by simpa using filled
    refine ⟨name.toList.dropLast, name.toList.getLast listed, ?_, ?_⟩
    · exact (List.dropLast_concat_getLast listed).symm
    · exact fun same => unslashed (same ▸ List.getLast_mem listed)
  obtain ⟨start, final, text, differs⟩ := last
  have unfinished : ¬ ((base.join ⟨name⟩).text = "" ∨ (base.join ⟨name⟩).endsWithSlash) := by
    rw [join_name base named]
    split <;> simp [endsWithSlash, text, differs, filled, List.getLast?_cons]
  rw [stem, if_neg unfinished, pieces_join base named]

/-- A path below another starts where the other starts. -/
theorem isAbsolute_join (base : Path) {name : String} (named : isEntryName name) :
    (base.join ⟨name⟩).isAbsolute = base.isAbsolute := by
  obtain ⟨-, -, -, unslashed⟩ := (isEntryName_iff name).1 named
  rw [join_name base named, isAbsolute, isAbsolute]
  by_cases empty : base.text = ""
  · have relative : name.toList.head? ≠ some '/' := fun leading =>
      unslashed (List.mem_of_mem_head? leading)
    simp [empty, relative]
  · obtain ⟨first, rest, text⟩ := List.exists_cons_of_ne_nil
      (show base.text.toList ≠ [] by simpa using empty)
    split <;> simp [text]

end Path

end BenchFigures
