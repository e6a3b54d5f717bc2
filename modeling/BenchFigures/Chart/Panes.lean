import BenchFigures.Chart.Picture

/-!
# The panes of a sheet

A sheet has a margin on all sides. What is inside is cut twice along each side, so
that it falls into nine panes: the plotting area in the middle and a strip at each
of its sides (the panes in the corners stay empty). A chart asks for room at the
left and below; where there is less than asked for, the cuts change places and the
strip on the other side gets pixels instead. A margin wider than half the sheet
puts the ends in the wrong order, which the cuts undo in the same way.
-/

namespace BenchFigures

/-- Where one side of a sheet is cut, in ascending order: the strip before the area
lies between the first two, the area between the next two, the strip after the
area between the last two. -/
structure Cuts where
  first : Int
  second : Int
  third : Int
  fourth : Int

namespace Cuts

/-- The cuts of a side between two ends, with room before and after the area. All
four positions are put in order: the least of the lower ones and the greatest of
the upper ones are outside, the other two inside. -/
def ofEnds (start finish before after : Int) : Cuts :=
  let outer := (min start finish, max start finish)
  let inner := (min (start + before) (finish - after), max (start + before) (finish - after))
  let low := max outer.1 inner.1
  let high := min outer.2 inner.2
  { first := min outer.1 inner.1
    second := min low high
    third := max low high
    fourth := max outer.2 inner.2 }

end Cuts

/-- The plotting area of a sheet and the strip at each of its sides. -/
structure Panes where
  area : Box
  above : Box
  below : Box
  left : Box
  right : Box

namespace Panes

/-- The panes of a sheet of a given size with a margin and room at the left of the
area and below it. A negative margin counts as none. -/
def ofSheet (width height : Nat) (margin roomAtLeft roomBelow : Int) : Panes :=
  let margin := max margin 0
  let columns := Cuts.ofEnds margin (width - margin) roomAtLeft 0
  let rows := Cuts.ofEnds margin (height - margin) 0 roomBelow
  { area := ⟨columns.second, rows.second, columns.third, rows.third⟩
    above := ⟨columns.second, rows.first, columns.third, rows.second⟩
    below := ⟨columns.second, rows.third, columns.third, rows.fourth⟩
    left := ⟨columns.first, rows.second, columns.second, rows.third⟩
    right := ⟨columns.third, rows.second, columns.fourth, rows.third⟩ }

end Panes

end BenchFigures
