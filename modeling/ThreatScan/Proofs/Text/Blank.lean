/-
# Text up to its blanks

Trimming takes blanks off both ends and nothing else (`exists_trim`).  The stripped lines of a text
are its lines without the blanks around them and without those that have nothing else; they are what
remains of a text when its layout is taken away, and they come line by line
(`strippedLines_append`).
-/
import ThreatScan.Text.Blank
import ThreatScan.Proofs.Text.Lines
import Mathlib.Data.List.DropRight

namespace ThreatScan
namespace Text

/-! ## 1. Blanks -/

/-- The blanks. -/
def blanks : List CodePoint :=
  [9, 10, 11, 12, 13, 0x1C, 0x1D, 0x1E, 0x1F, 0x20, 0x85, 0xA0, 0x1680, 0x2000, 0x2001, 0x2002,
    0x2003, 0x2004, 0x2005, 0x2006, 0x2007, 0x2008, 0x2009, 0x200A, 0x2028, 0x2029, 0x202F, 0x205F,
    0x3000]

theorem mem_blanks {x : CodePoint} : x ∈ blanks ↔ isBlank x = true := by
  simp only [blanks, isBlank, List.mem_cons, List.not_mem_nil, Bool.or_eq_true, Bool.and_eq_true,
    decide_eq_true_eq, or_false]
  unfold CodePoint at *
  omega

/-- The text has nothing but blanks. -/
def IsBlank (t : Text) : Prop := ∀ x ∈ t, isBlank x = true

theorem isBlankLine_iff {t : Text} : isBlankLine t = true ↔ IsBlank t := List.all_eq_true

/-! ## 2. Trimming -/

/-- **Trimming takes off blanks only**, on both sides. -/
theorem exists_trim (t : Text) : ∃ b b', t = b ++ (trim t ++ b') ∧ IsBlank b ∧ IsBlank b' := by
  refine ⟨t.takeWhile isBlank, (trimLeft t).rtakeWhile isBlank, ?_, ?_, ?_⟩
  · have hright : trim t ++ (trimLeft t).rtakeWhile isBlank = trimLeft t :=
      List.rdropWhile_append_rtakeWhile
    rw [hright]
    exact List.takeWhile_append_dropWhile.symm
  · exact fun x hx => List.mem_takeWhile_imp hx
  · exact fun x hx => List.mem_rtakeWhile_imp hx

theorem trim_eq_nil_iff {t : Text} : trim t = [] ↔ IsBlank t := by
  constructor
  · intro h
    obtain ⟨b, b', ht, hb, hb'⟩ := exists_trim t
    rw [h, List.nil_append] at ht
    rw [ht]
    exact List.forall_mem_append.mpr ⟨hb, hb'⟩
  · intro h
    have hleft : trimLeft t = [] := List.dropWhile_eq_nil_iff.mpr h
    rw [trim, hleft]
    rfl

/-! ## 3. Stripped lines -/

/-- The lines without the blanks around them, those left out that have nothing else. -/
def strippedLines (t : Text) : List Text := ((lines t).map trim).filter (· ≠ [])

/-- **Stripped lines come line by line.** -/
theorem strippedLines_append (c d : Text) :
    strippedLines (c ++ newline :: d) = strippedLines c ++ strippedLines d := by
  simp only [strippedLines, lines_append, List.map_append, List.filter_append]

theorem strippedLines_of_blank {l : Text} (hl : newline ∉ l) (hblank : IsBlank l) :
    strippedLines l = [] := by
  simp [strippedLines, lines_of_notMem hl, trim_eq_nil_iff.mpr hblank]

theorem strippedLines_of_not_blank {l : Text} (hl : newline ∉ l) (hblank : ¬ IsBlank l) :
    strippedLines l = [trim l] := by
  have hne : trim l ≠ [] := fun h => hblank (trim_eq_nil_iff.mp h)
  simp [strippedLines, lines_of_notMem hl, hne]

/-- **Induction over the lines of a text.** -/
theorem lines_induction {P : Text → Prop} (hline : ∀ l, newline ∉ l → P l)
    (hcons : ∀ l t, newline ∉ l → P t → P (l ++ newline :: t)) (t : Text) : P t := by
  have hall : ∀ ls : List Text, ls ≠ [] → (∀ l ∈ ls, newline ∉ l) →
      P ([newline].intercalate ls) := by
    intro ls
    induction ls with
    | nil => exact fun h => absurd rfl h
    | cons l ls ih =>
      intro _ hls
      obtain ⟨hl, hls⟩ := List.forall_mem_cons.mp hls
      cases ls with
      | nil => simpa using hline l hl
      | cons l' ls =>
        rw [List.intercalate_cons_cons, List.append_assoc]
        exact hcons l _ hl (ih (List.cons_ne_nil l' ls) hls)
  have ht := hall (lines t) (lines_ne_nil t) fun l hl => newline_notMem_of_mem_lines hl
  rwa [intercalate_lines] at ht

end Text
end ThreatScan
