/-!
# Text between separators

A text with a separator in it falls into pieces, one more than there are
separators. Joining the pieces with the separator gives the text back.
-/

namespace BenchFigures.Text

/-- The pieces of a text between the places where a separator stands. -/
def pieces (separator : Char) : List Char → List (List Char)
  | [] => [[]]
  | character :: rest =>
    if character = separator then [] :: pieces separator rest
    else
      match pieces separator rest with
      | first :: others => (character :: first) :: others
      | [] => [[character]]

/-- There is always a piece, be it empty. -/
theorem pieces_ne_nil (separator : Char) (text : List Char) : pieces separator text ≠ [] := by
  cases text with
  | nil => simp [pieces]
  | cons character rest =>
    rw [pieces]
    split
    · simp
    · split <;> simp

/-- Pieces joined by the separator are the text they were cut from. -/
theorem intercalate_pieces (separator : Char) (text : List Char) :
    [separator].intercalate (pieces separator text) = text := by
  induction text with
  | nil => simp [pieces, List.intercalate]
  | cons character rest inductionHypothesis =>
    have filled := pieces_ne_nil separator rest
    rw [pieces]
    match cut : pieces separator rest with
    | [] => exact absurd cut filled
    | first :: others =>
      rw [cut] at inductionHypothesis
      by_cases same : character = separator
      · simp only [same, if_true]
        rw [← inductionHypothesis]
        simp [List.intercalate, List.intersperse]
      · simp only [same, if_false]
        rw [← inductionHypothesis]
        cases others <;> simp [List.intercalate, List.intersperse]

end BenchFigures.Text
