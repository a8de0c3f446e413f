/-
# Verdicts by what they call for

A level is known as soon as it is known whether it is LOW and whether it is HIGH
(`Level.ext_low_high`), and every step of a verdict answers these two questions simply: the worst
of some levels is LOW if one of them is, and HIGH if all of them are.  So the verdict on a file,
which is made from the count before the bonus and from the count with it, equals the worst of the
level for the count with the bonus and of what the assessment calls for by itself
(`Verdict.worst?_grounds`).

The order of levels is that of the same two questions, so a worse assessment never leads to a
better verdict (`Verdict.securityRank_escalate_mono`).
-/
import ThreatScan.Scan.Verdict
import ThreatScan.Proofs.Number.Order
import Mathlib.Algebra.Order.Group.Int
import Mathlib.Tactic.SplitIfs

namespace ThreatScan
namespace Level

/-- A security level and the risk level that mirrors it: HIGH and LOW, MEDIUM and MEDIUM, LOW and
HIGH. -/
def Mirrored (security risk : Level) : Prop :=
  (security, risk) ∈ [(high, low), (medium, medium), (low, high)]

theorem mirrored_risk (l : Level) : Mirrored l l.risk := by
  cases l <;> simp [Mirrored, risk]

/-! ## 1. The order of levels -/

theorem ext_low_high {a b : Level} (hlow : a = .low ↔ b = .low) (hhigh : a = .high ↔ b = .high) :
    a = b := by
  cases a <;> cases b <;> simp_all

theorem worse_eq_low {a b : Level} : worse a b = .low ↔ a = .low ∨ b = .low := by
  cases a <;> cases b <;> decide

theorem worse_eq_high {a b : Level} : worse a b = .high ↔ a = .high ∧ b = .high := by
  cases a <;> cases b <;> decide

theorem securityRank_worse_le (a b : Level) : (worse a b).securityRank ≤ a.securityRank := by
  cases a <;> cases b <;> decide

theorem foldl_worse_eq_low {ls : List Level} {a : Level} :
    ls.foldl worse a = .low ↔ a = .low ∨ .low ∈ ls := by
  induction ls generalizing a with
  | nil => simp
  | cons b ls ih => simp [ih, worse_eq_low, or_assoc, eq_comm (a := Level.low)]

theorem foldl_worse_eq_high {ls : List Level} {a : Level} :
    ls.foldl worse a = .high ↔ a = .high ∧ ∀ b ∈ ls, b = .high := by
  induction ls generalizing a with
  | nil => simp
  | cons b ls ih => simp [ih, worse_eq_high, and_assoc]

theorem securityRank_le_iff {a b : Level} :
    a.securityRank ≤ b.securityRank ↔ (b = .low → a = .low) ∧ (a = .high → b = .high) := by
  cases a <;> cases b <;> decide

theorem securityRank_worse_mono {a b : Level} (h : a.securityRank ≤ b.securityRank) (c : Level) :
    (worse c a).securityRank ≤ (worse c b).securityRank := by
  rw [securityRank_le_iff] at h ⊢
  simp only [worse_eq_low, worse_eq_high]
  tauto

/-- Further levels make nothing better. -/
theorem securityRank_foldl_worse_le (ls : List Level) (a : Level) :
    (ls.foldl worse a).securityRank ≤ a.securityRank := by
  induction ls generalizing a with
  | nil => exact le_rfl
  | cons b ls ih => exact (ih (worse a b)).trans (securityRank_worse_le a b)

end Level

namespace Verdict

variable {threats warnings : ℤ} {a : MalwareAssessment}

/-! ## 2. The verdict by the counts -/

theorem ofFile_eq_low : ofFile threats warnings = .low ↔ 3 ≤ threats := by
  unfold ofFile
  split_ifs <;> simp_all

theorem ofFile_eq_high : ofFile threats warnings = .high ↔ threats < 1 ∧ warnings < 3 := by
  unfold ofFile
  split_ifs <;> simp_all <;> omega

/-- More threats and more warnings never make a verdict better. -/
theorem securityRank_ofFile_mono {threats' warnings' : ℤ} (hthreats : threats ≤ threats')
    (hwarnings : warnings ≤ warnings') :
    (ofFile threats' warnings').securityRank ≤ (ofFile threats warnings).securityRank := by
  rw [Level.securityRank_le_iff, ofFile_eq_low, ofFile_eq_low, ofFile_eq_high, ofFile_eq_high]
  constructor
  · intro h
    omega
  · rintro ⟨hthreats', hwarnings'⟩
    exact ⟨by omega, by omega⟩

/-! ## 3. The verdict by an assessment -/

theorem maliciousBonus_nonneg (a : MalwareAssessment) : 0 ≤ maliciousBonus a := by
  unfold maliciousBonus
  split <;> decide

/-- The levels that an assessment calls for by itself: LOW if the file is malicious beyond doubt,
MEDIUM if its security score is a bad one. -/
def grounds (a : MalwareAssessment) : List Level :=
  (if a.isMalicious ∧ Binary64.less 0.7 a.confidence then [.low] else []) ++
    if a.securityScore < 60 then [.medium] else []

theorem low_mem_grounds :
    .low ∈ grounds a ↔ a.isMalicious ∧ Binary64.less certainty a.confidence := by
  unfold grounds certainty
  split_ifs <;> simp_all

theorem grounds_eq_high :
    (∀ l ∈ grounds a, l = .high) ↔
      ¬ (a.isMalicious ∧ Binary64.less certainty a.confidence) ∧ 60 ≤ a.securityScore := by
  unfold grounds certainty
  split_ifs <;> simp_all

theorem ofAssessment_eq_low :
    ofAssessment threats a = .low ↔
      3 ≤ threats + maliciousBonus a ∨ (a.isMalicious ∧ Binary64.less certainty a.confidence) := by
  simp only [ofAssessment]
  split_ifs <;> simp_all

theorem ofAssessment_eq_high :
    ofAssessment threats a = .high ↔
      threats + maliciousBonus a < 1 ∧
        ¬ (a.isMalicious ∧ Binary64.less certainty a.confidence) ∧ 60 ≤ a.securityScore := by
  simp only [ofAssessment]
  split_ifs with hlow hmedium
  · refine iff_of_false (by decide) ?_
    rintro ⟨hthreats, hcertain, -⟩
    rcases hlow with hlow | hlow
    · omega
    · exact hcertain hlow
  · refine iff_of_false (by decide) ?_
    rintro ⟨hthreats, -, hscore⟩
    omega
  · exact iff_of_true rfl ⟨by omega, fun h => hlow (.inr h), by omega⟩

/-- An assessment makes no verdict better. -/
theorem securityRank_escalate_le (basic : Level) (threats : ℤ) (a : MalwareAssessment) :
    (escalate basic threats a).securityRank ≤ basic.securityRank :=
  Level.securityRank_worse_le basic _

/-- **The verdict on an assessed file, from the count with the bonus alone.** -/
theorem worst?_grounds (threats warnings : ℤ) (a : MalwareAssessment) :
    Level.worst? (ofFile (threats + maliciousBonus a) warnings :: grounds a) =
      some (escalate (ofFile threats warnings) threats a) := by
  have hbonus := maliciousBonus_nonneg a
  refine congrArg some (Level.ext_low_high ?_ ?_)
  · rw [Level.foldl_worse_eq_low, escalate, Level.worse_eq_low, ofFile_eq_low, ofFile_eq_low,
      ofAssessment_eq_low, low_mem_grounds]
    constructor
    · exact fun h => .inr h
    · rintro (h | h)
      · exact .inl (by omega)
      · exact h
  · rw [Level.foldl_worse_eq_high, escalate, Level.worse_eq_high, ofFile_eq_high, ofFile_eq_high,
      ofAssessment_eq_high, grounds_eq_high]
    constructor
    · rintro ⟨⟨hthreats, hwarnings⟩, h⟩
      exact ⟨⟨by omega, hwarnings⟩, hthreats, h⟩
    · rintro ⟨⟨-, hwarnings⟩, hthreats, h⟩
      exact ⟨⟨hthreats, hwarnings⟩, h⟩

end Verdict

/-! ## 4. Worse assessments -/

/-- `a` judges no better than `a₀`: none of its numbers speaks more in favour of the file. -/
structure MalwareAssessment.AtLeast (a a₀ : MalwareAssessment) : Prop where
  combinedScore : a₀.combinedScore.atMost a.combinedScore = true
  riskScore : a₀.riskScore ≤ a.riskScore
  confidence : a₀.confidence.atMost a.confidence = true
  securityScore : a.securityScore ≤ a₀.securityScore
  isMalicious : a₀.isMalicious = true → a.isMalicious = true

namespace Verdict

variable {a a₀ : MalwareAssessment}

theorem maliciousBonus_mono (h : a.AtLeast a₀) : maliciousBonus a₀ ≤ maliciousBonus a := by
  have himp := h.isMalicious
  unfold maliciousBonus
  split_ifs <;> simp_all

theorem certain_mono (h : a.AtLeast a₀)
    (h₀ : a₀.isMalicious ∧ Binary64.less certainty a₀.confidence) :
    a.isMalicious ∧ Binary64.less certainty a.confidence :=
  ⟨h.isMalicious h₀.1, Binary64.less_of_less_of_atMost h₀.2 h.confidence⟩

theorem securityRank_ofAssessment_mono (h : a.AtLeast a₀) (threats : ℤ) :
    (ofAssessment threats a).securityRank ≤ (ofAssessment threats a₀).securityRank := by
  have hbonus := maliciousBonus_mono h
  have hscore := h.securityScore
  rw [Level.securityRank_le_iff, ofAssessment_eq_low, ofAssessment_eq_low, ofAssessment_eq_high,
    ofAssessment_eq_high]
  constructor
  · rintro (hthreats | hcertain)
    · exact .inl (by omega)
    · exact .inr (certain_mono h hcertain)
  · rintro ⟨hthreats, hcertain, hsecure⟩
    exact ⟨by omega, fun h₀ => hcertain (certain_mono h h₀), by omega⟩

/-- **A worse assessment never makes a verdict better.** -/
theorem securityRank_escalate_mono (h : a.AtLeast a₀) (basic : Level) (threats : ℤ) :
    (escalate basic threats a).securityRank ≤ (escalate basic threats a₀).securityRank :=
  Level.securityRank_worse_mono (securityRank_ofAssessment_mono h threats) basic

/-! ## 5. Code -/

theorem ofQuality_eq_low {q : CodeQuality} (h : q.vulnerabilityRisk = .high) : ofQuality q = .low :=
  if_pos (.inl h)

theorem ofQuality_ne_high {q : CodeQuality} (h : q.vulnerabilityRisk ≠ .low) :
    ofQuality q ≠ .high := by
  unfold ofQuality
  split_ifs with hlow hmedium
  · decide
  · decide
  · cases hrisk : q.vulnerabilityRisk <;> simp_all

end Verdict
end ThreatScan
