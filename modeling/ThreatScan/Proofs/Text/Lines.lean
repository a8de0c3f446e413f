/-
# Lines

What stands between two separators holds none of them, so no line of a text goes on beyond a line
feed.  The lines are those that the library splits a list into (`lines_eq`), so a text is its lines
with line feeds between them, and text behind a line feed adds its own lines (`lines_append`).
-/
import ThreatScan.Text.Basic
import Mathlib.Data.List.Basic

namespace ThreatScan
namespace Text

/-- The pieces of a text are free of the separator: the one that is being read, and those that are
done. -/
theorem notMem_of_mem_splitGo {sep : CodePoint} {t piece : Text} {done : List Text}
    (hpiece : sep ∉ piece) (hdone : ∀ l ∈ done, sep ∉ l) :
    ∀ l ∈ splitGo sep t piece done, sep ∉ l := by
  induction t generalizing piece done with
  | nil =>
    intro l hl
    rw [splitGo, List.mem_reverse] at hl
    exact List.forall_mem_cons.mpr ⟨by simpa using hpiece, hdone⟩ l hl
  | cons x t ih =>
    rw [splitGo]
    split
    case isTrue => exact ih (by simp) (List.forall_mem_cons.mpr ⟨by simpa using hpiece, hdone⟩)
    case isFalse hx => exact ih (List.not_mem_cons_of_ne_of_not_mem (Ne.symm hx) hpiece) hdone

theorem newline_notMem_of_mem_lines {t line : Text} (h : line ∈ lines t) : newline ∉ line :=
  notMem_of_mem_splitGo (by simp) (by simp) line h

/-- The pieces are those of the library, behind the ones that are done. -/
theorem splitGo_eq (sep : CodePoint) (t piece : Text) (done : List Text) :
    splitGo sep t piece done = done.reverse ++ t.splitOnPPrepend (· == sep) piece := by
  induction t generalizing piece done with
  | nil => simp [splitGo]
  | cons x t ih =>
    rw [splitGo, List.splitOnPPrepend_cons_eq_if]
    split
    case isTrue h => simp [h, ih]
    case isFalse h => simp [h, ih]

theorem lines_eq (t : Text) : lines t = List.splitOn newline t :=
  splitGo_eq newline t [] []

/-- **What follows a line feed adds its lines.** -/
theorem lines_append (c d : Text) : lines (c ++ newline :: d) = lines c ++ lines d := by
  simp only [lines_eq, List.splitOn_append_cons_self]

theorem lines_of_notMem {t : Text} (h : newline ∉ t) : lines t = [t] := by
  rw [lines_eq, List.splitOn_eq_singleton h]

theorem lines_ne_nil (t : Text) : lines t ≠ [] := by
  rw [lines_eq]
  exact List.splitOn_ne_nil newline t

/-- A text is its lines with line feeds between them. -/
theorem intercalate_lines (t : Text) : [newline].intercalate (lines t) = t := by
  rw [lines_eq, List.intercalate_splitOn]

end Text
end ThreatScan
