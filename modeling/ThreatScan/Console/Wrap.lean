/-
# Wrapping lines

A paragraph is set in lines of a given width, broken between words.  A word that is wider than a
line is folded over several lines, or else its end is left out and an ellipsis stands for it.
-/
import ThreatScan.Text.Blank
import ThreatScan.Text.Cells

namespace ThreatScan
namespace Console

/-- What becomes of a word that is too wide. -/
inductive Overflow where
  | fold
  | ellipsis
deriving DecidableEq, Repr

/-- Where a line stands in its width. -/
inductive Alignment where
  /-- On the left, with nothing after it. -/
  | ragged
  /-- On the left, with spaces after it. -/
  | left
  /-- On the right. -/
  | right
deriving DecidableEq, Repr

/-! ## 1. Characters -/

/-- Controls that move the cursor or ring; they are left out. -/
def isDropped (c : CodePoint) : Bool := c = 7 || c = 8 || c = 11 || c = 12 || c = 13

/-- The text without such controls. -/
def visible (t : Text) : Text := t.filter fun c => !isDropped c

/-- The number of spaces that a tab at a cell stands for. -/
def tabWidth (cell : Nat) : Nat := 8 - cell % 8

/-- The text from a cell on, with spaces for tabs. -/
def expandTabsFrom : Nat → Text → Text
  | _, [] => []
  | cell, c :: t =>
    if c = 9 then List.replicate (tabWidth cell) 32 ++ expandTabsFrom (cell + tabWidth cell) t
    else c :: expandTabsFrom (cell + Text.cellWidth c) t

/-! ## 2. Breaking -/

/-- The words of a line after a piece of one, reversed: `solid` if the piece has a character that
is no blank, `ended` if blanks follow it. -/
def wordsFrom (piece : Text) (solid ended : Bool) : Text → List Text
  | [] => if solid then [piece.reverse] else []
  | c :: t =>
    if Text.isBlank c then wordsFrom (c :: piece) solid solid t
    else if ended then piece.reverse :: wordsFrom [c] true false t
    else wordsFrom (c :: piece) true false t

/-- The words of a line, each with the blanks after it and the first one also with those
before. -/
def words (t : Text) : List Text := wordsFrom [] false false t

/-- The text after a piece, reversed, that takes up `used` cells, cut into pieces of at most
`width` cells. -/
def chopFrom (width : Nat) (piece : Text) (used : Nat) : Text → List Text
  | [] => [piece.reverse]
  | c :: t =>
    if width < used + Text.cellWidth c then
      piece.reverse :: chopFrom width [c] (Text.cellWidth c) t
    else chopFrom width (c :: piece) (used + Text.cellWidth c) t

/-- Lines that are being filled: those done, reversed, and the last one with its cells. -/
structure Filling where
  done : List Text
  line : Text
  used : Nat

namespace Filling

/-- Starts a line with a text; at the very start the line is there already. -/
def start (f : Filling) (t : Text) : Filling :=
  if f.done.isEmpty && f.line.isEmpty then ⟨[], t, Text.cells t⟩
  else ⟨f.line :: f.done, t, Text.cells t⟩

/-- Adds a word: on the line if it fits, otherwise on a new one. -/
def add (width : Nat) (overflow : Overflow) (f : Filling) (word : Text) : Filling :=
  let needed := Text.cells (Text.trimRight word)
  if f.used + needed ≤ width then { f with line := f.line ++ word, used := f.used + Text.cells word }
  else if width < needed ∧ overflow = .fold then (chopFrom width [] 0 word).foldl start f
  else f.start word

/-- All lines. -/
def lines (f : Filling) : List Text := (f.line :: f.done).reverse

end Filling

/-- The pieces of a line that fit the width. -/
def breakLine (width : Nat) (overflow : Overflow) (t : Text) : List Text :=
  match words t with
  | [] => [t]
  | ws => (ws.foldl (Filling.add width overflow) ⟨[], [], 0⟩).lines

/-! ## 3. Fitting -/

/-- The line without the blanks at its end that are beyond the width. -/
def dropExcess (width : Nat) (t : Text) : Text :=
  let blanks := t.length - (Text.trimRight t).length
  t.take (t.length - min blanks (t.length - width))

/-- The line in at most `width` cells. -/
def truncate (width : Nat) (overflow : Overflow) (t : Text) : Text :=
  if Text.cells t ≤ width then t
  else match overflow with
    | .fold => Text.takeCells width t
    | .ellipsis => Text.takeCells (width - 1) t ++ [0x2026]

/-- The line in its place. -/
def align (width : Nat) (overflow : Overflow) : Alignment → Text → Text
  | .ragged, t => truncate width overflow t
  | .left, t => Text.padCells width (truncate width overflow t)
  | .right, t => Text.padCellsLeft width (truncate width overflow (Text.trimRight t))

/-- The lines of a text set in a width. -/
def wrap (width : Nat) (overflow : Overflow) (alignment : Alignment) (t : Text) : List Text :=
  (Text.lines (visible t)).flatMap fun line =>
    (breakLine width overflow (expandTabsFrom 0 line)).map fun piece =>
      align width overflow alignment (dropExcess width piece)

end Console
end ThreatScan
