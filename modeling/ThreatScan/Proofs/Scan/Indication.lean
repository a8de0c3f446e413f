/-
# The performance score is a percentage

The score starts at one hundred, every penalty takes something off, and what falls below zero
counts as zero.  As long as the penalties are numbers that are not negative, the score has an
integer part between zero and one hundred, and the assessment of performance cannot fail.
-/
import ThreatScan.Scan.Indication
import ThreatScan.Proofs.Scan.Matching

namespace ThreatScan
namespace Indication

open Binary64

variable {code : Text} {table : List Signature}

/-- Penalties never raise a score, and it stays a number. -/
theorem notAbove_foldl_weight {ss : List Signature} (h : ∀ s ∈ ss, Nonneg s.weight)
    {x : Binary64} (hx : NotAbove 100 x) (hne : x ≠ .nan) :
    NotAbove 100 (ss.foldl (fun x s => x - s.weight) x) ∧
      ss.foldl (fun x s => x - s.weight) x ≠ .nan := by
  induction ss generalizing x with
  | nil => exact ⟨hx, hne⟩
  | cons s ss ih =>
    obtain ⟨hw, hwne⟩ := h s (by simp)
    have hle : NotAbove 100 (x - s.weight) := by
      exact_mod_cast NotAbove.sub (n := 100) (by norm_num) (by exact_mod_cast hx) hw
    exact ih (fun t ht => h t (by simp [ht])) hle (sub_ne_nan hx hw hne hwne)

theorem notAbove_performanceScore (h : NoNegativeWeight table) :
    NotAbove 100 (performanceScore code table) ∧ performanceScore code table ≠ .nan := by
  refine notAbove_foldl_weight ?_ (by simp [hundred_eq]) (by simp [hundred_eq])
  exact fun s hs => h s (List.mem_filter.mp hs).1

/-- A score that is a number and bounded above has an integer part, which is not negative. -/
theorem wholeScore_eq {x : Binary64} {n : ℕ} (hx : NotAbove n x) (hne : x ≠ .nan) :
    ∃ k, wholeScore x = .ok k ∧ 0 ≤ k ∧ k ≤ n := by
  have hlow : NotBelow 0 (greatest x 0) := by
    rw [zero_eq]
    exact notBelow_greatest x 0
  have hhigh : NotAbove n (greatest x 0) := hx.greatest (by simp)
  refine ⟨(greatest x 0).truncate, ?_, truncate_nonneg hlow, truncate_le hlow hhigh⟩
  unfold wholeScore
  split
  case h_1 hnan =>
    rcases greatest_cases x 0 with hg | hg
    · exact absurd (hg.symm.trans hnan) hne
    · exact absurd (hg.symm.trans hnan) (by simp)
  case h_2 negative hinf =>
    rw [hinf] at hlow hhigh
    simp_all
  case h_3 => rfl

/-- **The performance of code is assessed without failure**, by a score between zero and one
hundred. -/
theorem performance_eq (h : NoNegativeWeight table) :
    ∃ p : PerformanceImpact, performance code table = .ok p ∧ 0 ≤ p.score ∧ p.score ≤ 100 := by
  obtain ⟨hle, hne⟩ :
      NotAbove (100 : ℕ) (performanceScore code table) ∧ performanceScore code table ≠ .nan := by
    exact_mod_cast notAbove_performanceScore h
  obtain ⟨k, hk, hlow, hhigh⟩ := wholeScore_eq hle hne
  refine ⟨⟨k, present code table⟩, ?_, hlow, hhigh⟩
  rw [performance, hk]
  exact if_neg (not_lt.mpr hhigh)

end Indication
end ThreatScan
