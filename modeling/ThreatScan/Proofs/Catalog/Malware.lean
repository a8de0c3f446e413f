/-
# The tables for files

The words that earn a finding take texts of one length each, so a search finds as many of them as
there can be, and no fewer than in a part of the text.  Of the hints at behavior, which are several
words each, only the presence counts, and for that it is enough that their patterns are plain.
-/
import ThreatScan.Catalog.Indicators
import ThreatScan.Proofs.Pattern.Packing
import ThreatScan.Proofs.Pattern.Respaced

namespace ThreatScan
namespace Shipped

open Pattern

theorem words_isPrompt : ∀ s ∈ malware ++ suspicious, s.pattern.IsPrompt := by
  have htable : ∀ s ∈ malware ++ suspicious, s.pattern.isPlain = true ∧
      0 < s.pattern.leastLength ∧ s.pattern.greatestLength? = some s.pattern.leastLength := by
    decide +kernel
  intro s hs
  obtain ⟨hplain, hlength, huniform⟩ := htable s hs
  exact isPrompt_of_uniform hplain hlength huniform

theorem behaviors_isPlain : ∀ s ∈ behaviors, s.pattern.isPlain = true := by decide +kernel

variable {t t' : Text}

/-- No word is found less often than in a part of the text. -/
theorem words_count_le (h : t <:+: t') :
    ∀ s ∈ malware ++ suspicious, s.pattern.count t ≤ s.pattern.count t' := by
  intro s hs
  exact count_le_of_part (words_isPrompt s hs) h

/-- A hint at behavior in a part of the text is one in the text. -/
theorem behaviors_count_pos (h : t <:+: t') :
    ∀ s ∈ behaviors, 0 < s.pattern.count t → 0 < s.pattern.count t' := by
  intro s hs hpos
  have hplain := behaviors_isPlain s hs
  obtain ⟨w, hw, hpart⟩ := (count_pos_iff_of_isPlain hplain).mp hpos
  exact (count_pos_iff_of_isPlain hplain).mpr ⟨w, hw, hpart.trans h⟩

end Shipped
end ThreatScan
