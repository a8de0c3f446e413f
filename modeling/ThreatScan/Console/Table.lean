/-
# Tables and panels

A table has columns without rules between them.  A column has a fixed width, or it is as wide as
its widest cell and no wider than the fixed columns leave room for.  A panel is a frame around a
text.
-/
import ThreatScan.Console.Wrap

namespace ThreatScan
namespace Console

/-- The width of the terminal. -/
def pageWidth : Nat := 100

/-! ## 1. Tables -/

/-- A column; only one of a table has no fixed width. -/
structure Column where
  header : Text := []
  width : Option Nat := none
  alignment : Alignment := .left

/-- A table. -/
structure Table where
  columns : List Column
  rows : List (List Text)
  /-- The number of spaces on each side of a cell. -/
  padding : Nat
  showsHeader : Bool

namespace Table

/-- A character that ends a line in a cell. -/
def isBreak (c : CodePoint) : Bool :=
  c = 10 || (0x1C ≤ c && c ≤ 0x1E) || c = 0x85 || c = 0x2028 || c = 0x2029

/-- The number of cells of the widest line of a text. -/
def widest (t : Text) : Nat :=
  Text.lines ((visible t).map fun c => if isBreak c then Text.newline else c)
    |>.foldl (fun n line => max n (Text.cells line)) 0

/-- All rows, with the header as the first one if it is shown. -/
def allRows (t : Table) : List (List Text) :=
  (if t.showsHeader then [t.columns.map (·.header)] else []) ++ t.rows

/-- The room that the fixed columns leave for the content of another one. -/
def room (t : Table) : Nat :=
  pageWidth - t.columns.foldl (fun n c => n + c.width.getD 0 + 2 * t.padding) 0

/-- The width of the content of a column. -/
def contentWidth (t : Table) (i : Nat) (c : Column) : Nat :=
  c.width.getD (min t.room (t.allRows.foldl (fun n row => max n (widest (row.getD i []))) 0))

/-- The widths of all columns. -/
def widths (t : Table) : List Nat := t.columns.zipIdx.map fun (c, i) => t.contentWidth i c

/-- The lines of a cell within its padding. -/
def cell (padding width : Nat) (alignment : Alignment) (t : Text) : List Text :=
  (wrap width .ellipsis alignment t).map fun line =>
    List.replicate padding 32 ++ Text.padCells width line ++ List.replicate padding 32

/-- Puts blocks of lines side by side; a short block is filled up with blank lines. -/
def beside (blocks : List (Nat × List Text)) : List Text :=
  let height := blocks.foldl (fun n b => max n b.2.length) 0
  (List.range height).map fun i =>
    blocks.flatMap fun (width, lines) => lines.getD i (List.replicate width 32)

/-- The lines of a row. -/
def row (t : Table) (cells : List Text) : List Text :=
  beside ((t.columns.zip (t.widths.zip cells)).map fun (c, width, text) =>
    (width + 2 * t.padding, cell t.padding width c.alignment text))

/-- The lines of a table. -/
def lines (t : Table) : List Text := t.allRows.flatMap t.row

end Table

/-! ## 2. Panels -/

/-- The horizontal rule. -/
def rule (width : Nat) : Text := List.replicate width 0x2500

/-- The lines of a text in a frame with round corners. -/
def panel (t : Text) : List Text :=
  [0x256D :: rule (pageWidth - 2) ++ [0x256E]] ++
    (wrap (pageWidth - 4) .fold .ragged t).map (fun line =>
      Text.ofString "│ " ++ Text.padCells (pageWidth - 4) line ++ Text.ofString " │") ++
    [0x2570 :: rule (pageWidth - 2) ++ [0x256F]]

end Console
end ThreatScan
