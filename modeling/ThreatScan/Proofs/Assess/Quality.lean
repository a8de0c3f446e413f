/-
# The quality assessment keeps its bounds

The structure of code is measured in cut quotients, and the penalties for vulnerabilities and
complexity only take off from one hundred.  So all numbers of an assessment are in their ranges
(`violations_assessment`), and only a vulnerability with a negative weight can make an analysis
fail (`analyze_eq`).
-/
import ThreatScan.Assess.Quality
import ThreatScan.Proofs.Pattern.Occurrence
import ThreatScan.Proofs.Scan.Matching

namespace ThreatScan
namespace Quality

open Binary64

/-! ## 1. Structure -/

/-- The kinds of branch in a line, by their patterns alone. -/
theorem branchKinds_eq (line : Text) :
    branchKinds line = branches.countP fun p => 0 < p.count line := by
  rw [branchKinds, branchSearches, List.countP_map]
  refine List.countP_congr ?_
  intro p _
  rw [decide_eq_true_eq]
  exact Pattern.foundIn_iff

/-- **Complexity is made from the number of lines that are not blank and their kinds of branch.** -/
theorem complexity_eq (code : Text) :
    (metrics code).complexity =
      if h : (solidLines code).length = 0 then 0
      else complexityOf ((solidLines code).map fun l => branches.countP fun p => 0 < p.count l).sum
        (solidLines code).length h := by
  simp only [metrics, branchKinds_eq, List.sum_eq_foldl, List.foldl_map]
  split <;> rfl

theorem within_complexityOf (branches lines : ℕ) (h : lines ≠ 0) :
    Within 0 100 (complexityOf branches lines h) := by
  rw [complexityOf, hundred_eq]
  constructor
  · refine NotBelow.least ?_ (by simp)
    exact (notBelow_ofQuotient branches lines h).mul (notBelow_ofNat 50)
  · exact notAbove_least _ 100

/-- Complexity is a percentage. -/
theorem within_complexity (code : Text) : Within 0 100 (metrics code).complexity := by
  unfold metrics
  simp only
  split
  · simp [Within]
  · exact within_complexityOf _ _ _

theorem notBelow_maintainability (code : Text) : NotBelow 0 (metrics code).maintainability := by
  unfold metrics
  simp only
  split
  · simp [hundred_eq]
  · rw [maintainabilityOf, zero_eq]
    exact notBelow_greatest _ 0

/-! ## 2. The assessment -/

/-- Vulnerabilities and complexity only lower the security score. -/
theorem within_securityScore (m : Matching) (s : Metrics) : Within 0 100 (securityScore m s) := by
  rw [securityScore, zero_eq]
  refine ⟨notBelow_greatest _ 0, NotAbove.greatest ?_ (by simp)⟩
  have hpercent : |(100 : ℤ)| < 2 ^ 53 := by norm_num
  have h₀ : NotAbove ((100 : ℤ) : ℚ) 100 := by simp [hundred_eq]
  have h₁ := h₀.sub hpercent (notBelow_ofNat (m.count .high * 25))
  have h₂ := h₁.sub hpercent (notBelow_ofNat (m.count .medium * 10))
  exact_mod_cast h₂.sub hpercent (notBelow_finite_greatest 0 ((s.complexity - 50) * 0.5))

/-- **No number of a quality assessment is out of bounds.** -/
theorem violations_assessment (m : Matching) (code : Text) :
    violations (assessment m (metrics code)) = [] := by
  have h₁ : Decode.Bounds.percent.brokenBy (securityScore m (metrics code)).round = none :=
    Decode.Bounds.percent_brokenBy.mpr (within_securityScore m (metrics code)).round
  have h₂ : Decode.Bounds.natural.brokenBy (metrics code).maintainability.round = none :=
    Decode.Bounds.natural_brokenBy.mpr (round_nonneg (notBelow_maintainability code))
  have h₃ : Decode.Bounds.percent.brokenBy (metrics code).complexity.round = none :=
    Decode.Bounds.percent_brokenBy.mpr (within_complexity code).round
  simp [violations, assessment, h₁, h₂, h₃]

theorem vulnerabilityRisk_eq_high {m : Matching} (h : 2 ≤ m.count .high) :
    vulnerabilityRisk m = .high :=
  if_pos h

theorem vulnerabilityRisk_ne_low {m : Matching} (h : 1 ≤ m.count .high ∨ 3 ≤ m.count .medium) :
    vulnerabilityRisk m ≠ .low := by
  unfold vulnerabilityRisk
  rw [if_pos h]
  split <;> decide

/-- **Code is assessed without failure** by a table without negative weights. -/
theorem analyze_eq {table : List Signature} (h : NoNegativeWeight table) (code : Text) :
    (analyze table code).outcome =
      .ok (assessment (Matching.ofLines code table) (metrics code)) := by
  simp only [analyze, Traced.outcome_bind, Matching.traced,
    Matching.complete_ofLines h, Except.bind, Traced.outcome_say, violations_assessment]
  rfl

end Quality
end ThreatScan
