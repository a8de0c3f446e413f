/-
# Widths on a terminal

A terminal has cells.  Most code points take up one, ideographs and pictures two, marks and
controls none.
-/
import ThreatScan.Text.Case
import ThreatScan.Text.CellTable

namespace ThreatScan
namespace Text

/-- The number of cells of a code point. -/
def cellWidth (c : CodePoint) : Nat :=
  if 32 ≤ c ∧ c < 127 then 1
  else if inRanges c cellLessRanges then 0
  else if inRanges c doubleCellRanges then 2
  else 1

/-- The number of cells of a text. -/
def cells (t : Text) : Nat := t.foldl (fun n c => n + cellWidth c) 0

/-- The text in at most `n` cells; half of a wide code point becomes a space. -/
def takeCells : Nat → Text → Text
  | _, [] => []
  | n, c :: t =>
    if cellWidth c ≤ n then c :: takeCells (n - cellWidth c) t else List.replicate n 32

/-- The text with spaces after it up to `n` cells. -/
def padCells (n : Nat) (t : Text) : Text := t ++ List.replicate (n - cells t) 32

/-- The text with spaces before it up to `n` cells. -/
def padCellsLeft (n : Nat) (t : Text) : Text := List.replicate (n - cells t) 32 ++ t

end Text
end ThreatScan
