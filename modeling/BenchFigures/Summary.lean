import BenchFigures.Decimal.Notation
import BenchFigures.Results.Level

/-!
# The summary

The summary is a table with one line for each level and variant. It is written in
two ways: as lines of cells separated by semicolons, and as a framed table whose
cells all have one width and are centred. Both show the same rows.
-/

namespace BenchFigures.Summary

/-- The titles of the columns. -/
def header : List String :=
  ["Level", "Variant", "Runs", "Average", "Min", "Max", "Std", "Speedup"]

/-- The cells of one variant at a level. A missing speedup leaves its cell empty. -/
def cells (level : OptimizationLevel) (variant : Variant) (aggregate : Aggregate Float) :
    List String :=
  [level.flag, variant.name, toString aggregate.count, Decimal.fixed 3 aggregate.average,
   Decimal.fixed 3 aggregate.minimum, Decimal.fixed 3 aggregate.maximum,
   Decimal.fixed 3 aggregate.deviation,
   match aggregate.speedup with
   | some speedup => Decimal.fixed 4 speedup
   | none => ""]

/-- The rows of the summary: the header, then the variants of each level. -/
def rows (levels : List LevelResults) : List (List String) :=
  header :: levels.flatMap fun results =>
    Variant.all.map fun variant => cells results.level variant (results.get variant)

/-- Rows as lines of cells separated by semicolons. -/
def separated (rows : List (List String)) : String :=
  String.join (rows.map fun row => ";".intercalate row ++ "\n")

/-- So many equal characters. -/
def repeated (count : Nat) (character : Char) : String :=
  String.ofList (List.replicate count character)

/-- A text centred in a width, which counts characters. What is left over goes to
the right. A text that is too long stays as it is. -/
def centred (text : String) (width : Nat) : String :=
  let blanks := width - text.length
  repeated (blanks / 2) ' ' ++ text ++ repeated (blanks - blanks / 2) ' '

/-- Where a cell stands in its row: only the last one has a bar at its end. -/
inductive CellPlace where
  | inner
  | last
  deriving DecidableEq, Repr

/-- A cell of the framed table. -/
def cell (place : CellPlace) (text : String) (width : Nat) : String :=
  match place with
  | .inner => "|" ++ centred text width
  | .last => "|" ++ centred text width ++ "|"

/-- A row of the framed table. -/
def framedRow (width : Nat) : List String → String
  | [] => ""
  | [text] => cell .last text width
  | text :: rest => cell .inner text width ++ framedRow width rest

/-- The width of every cell: two more than the longest text, in bytes. -/
def cellWidth (rows : List (List String)) : Nat :=
  rows.flatten.foldl (fun width text => max width text.utf8ByteSize) 0 + 2

/-- Rows as a framed table, between two rules as long as the longest row. -/
def framed (rows : List (List String)) : String :=
  let lines := rows.map (framedRow (cellWidth rows))
  let rule := repeated (lines.foldl (fun width line => max width line.utf8ByteSize) 0) '-'
  rule ++ "\n" ++ String.join (lines.map (· ++ "\n")) ++ rule

/-- The summary as lines of cells separated by semicolons. -/
def csv (levels : List LevelResults) : String := separated (rows levels)

/-- The summary as a framed table. -/
def table (levels : List LevelResults) : String := framed (rows levels)

end BenchFigures.Summary
