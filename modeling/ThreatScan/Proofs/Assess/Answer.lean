/-
# The answer of the scorer in an assessment

An answer enters an assessment in two places: its score is blended with the pattern scores, and
its confidence counts if it is greater than theirs.  Neither place turns the order round.  So an
answer that is at least as great as another one leads to an assessment that judges no better
(`MalwareAnalyzer.assess_mono`), and two zeros, which a scorer that fails counts as, are the least
answer within the bounds.
-/
import ThreatScan.Proofs.Assess.Malware
import ThreatScan.Proofs.Scan.Verdict

namespace ThreatScan

open Binary64

/-! ## 1. Answers in order -/

/-- Neither number of `o` exceeds that of `o'`. -/
structure ScorerOutput.AtMost (o o' : ScorerOutput) : Prop where
  score : o.score.atMost o'.score = true
  confidence : o.confidence.atMost o'.confidence = true

theorem ScorerOutput.InUnit.zero_atMost {o : ScorerOutput} (h : o.InUnit) : AtMost ⟨0, 0⟩ o :=
  ⟨h.score.zero_atMost, h.confidence.zero_atMost⟩

namespace Scorer

variable {scorer scorer' : Scorer} {timeout : Binary64} {content : Text} {o o' : ScorerOutput}

/-- The scorer counts as one that answers `o`: it does so, or it fails and `o` is two zeros. -/
def CountsAs (scorer : Scorer) (timeout : Binary64) (content : Text) (o : ScorerOutput) : Prop :=
  scorer.AnswersWith content o ∨ (scorer.Fails timeout content ∧ o = ⟨0, 0⟩)

/-- What the scorer returns is untyped data of any shape, or a finished answer within the bounds. -/
def Returns (scorer : Scorer) (content : Text) : Prop :=
  (∃ value, scorer content = .answered value) ∨ ∃ o, scorer content = .made o ∧ o.InUnit

/-- A scorer that returns something counts as one with a valid answer: with this one or, if it is
refused, with zeros. -/
theorem Returns.countsAs (h : scorer.Returns content) (timeout : Binary64) :
    ∃ o, scorer.CountsAs timeout content o := by
  obtain ⟨value, hvalue⟩ | ⟨o, hmade, hunit⟩ := h
  · cases hdecode : ScorerOutput.decode value with
    | valid o => exact ⟨o, .inl (.inl ⟨value, hvalue, hdecode⟩)⟩
    | invalid vs =>
      refine ⟨⟨0, 0⟩, .inr ⟨?_, rfl⟩⟩
      simp [Fails, hvalue, hdecode]
  · exact ⟨o, .inl (.inr ⟨hmade, hunit⟩)⟩

theorem CountsAs.inUnit (h : scorer.CountsAs timeout content o) : o.InUnit := by
  rcases h with hanswers | ⟨-, rfl⟩
  · exact hanswers.inUnit
  · exact ScorerOutput.inUnit_zero

/-- What is read of a scorer is what it counts as, if there is any time for it. -/
theorem CountsAs.read (h : scorer.CountsAs timeout content o) :
    ∃ answer, scorer.read timeout content = .ok answer ∧
      MalwareAnalyzer.answerOf answer = if timeout.atMost 0 then ⟨0, 0⟩ else o := by
  rcases h with hanswers | ⟨hfails, rfl⟩
  · exact hanswers.read timeout
  · obtain ⟨c, message, hread⟩ := hfails.read
    exact ⟨_, hread, (ite_self _).symm⟩

theorem CountsAs.inUnit_read {answer : Except Text ScorerOutput}
    (h : scorer.CountsAs timeout content o) (hread : scorer.read timeout content = .ok answer) :
    (MalwareAnalyzer.answerOf answer).InUnit := by
  obtain ⟨answer', hread', hanswer⟩ := h.read
  obtain rfl : answer = answer' := Except.ok.inj (hread.symm.trans hread')
  rw [hanswer]
  split
  · exact ScorerOutput.inUnit_zero
  · exact h.inUnit

/-- Both scorers have the same time, so what is read of them is in the order of their answers. -/
theorem CountsAs.read_mono (h : scorer.CountsAs timeout content o)
    (h' : scorer'.CountsAs timeout content o') (hle : o.AtMost o') :
    ∃ answer answer', scorer.read timeout content = .ok answer ∧
      scorer'.read timeout content = .ok answer' ∧
        (MalwareAnalyzer.answerOf answer).AtMost (MalwareAnalyzer.answerOf answer') := by
  obtain ⟨answer, hread, hanswer⟩ := h.read
  obtain ⟨answer', hread', hanswer'⟩ := h'.read
  refine ⟨answer, answer', hread, hread', ?_⟩
  rw [hanswer, hanswer']
  split
  · exact ⟨atMost_refl (by simp), atMost_refl (by simp)⟩
  · exact hle

end Scorer

/-! ## 2. The blend -/

namespace Blend

/-- The shares of a blend are finite, and none is negative or above one. -/
def IsSound (b : Blend) : Prop := ∀ w ∈ b.shares, Ascends 1 w w

theorem isSound_default : default.IsSound := by
  intro w hw
  simp only [default, shares, List.mem_cons, List.not_mem_nil, or_false] at hw
  rcases hw with rfl | rfl | rfl <;>
    exact ascends_ofRat (by norm_num) (by decide +kernel) le_rfl (by decide +kernel)

/-- A sound blend keeps the order of the score in the middle. -/
theorem ascends_combine {b : Blend} (h : b.IsSound) {y y' : Binary64}
    (hy : Ascends 1 y.clampUnit y'.clampUnit) (x z : Binary64) :
    Ascends 1 (b.combine x y z) (b.combine x y' z) := by
  have hpattern : Ascends 1 b.pattern b.pattern := h _ (by simp [shares])
  have hsecondary : Ascends 1 b.secondary b.secondary := h _ (by simp [shares])
  have hanomaly : Ascends 1 b.anomaly b.anomaly := h _ (by simp [shares])
  have h₁ := hpattern.mul (by norm_num) (ascends_clampUnit_refl x)
  have h₂ := hsecondary.mul (by norm_num) hy
  have h₃ := hanomaly.mul (by norm_num) (ascends_clampUnit_refl z)
  exact ascends_clampUnit (((h₁.add (by norm_num) h₂).add (by norm_num) h₃).atMost)

end Blend

/-! ## 3. The assessment -/

namespace MalwareAnalyzer

/-- The confidence in the patterns is a number, however many matches there are. -/
theorem confidence_patterns_ne_nan (m : MalwareAnalyzer) (content name : Text) :
    (m.patterns content name).confidence ≠ .nan :=
  (inUnit_patternScore _ name content _).2.ne_nan

/-- **A greater answer never leads to a better assessment.** -/
theorem assess_mono {m : MalwareAnalyzer} (hblend : m.blend.IsSound) (content name : Text)
    {answer answer' : Except Text ScorerOutput} (h : (answerOf answer).AtMost (answerOf answer')) :
    (m.assess content name answer').AtLeast (m.assess content name answer) := by
  have hcombined : Ascends 1 (m.assess content name answer).combinedScore
      (m.assess content name answer').combinedScore :=
    Blend.ascends_combine hblend (ascends_clampUnit h.score) _ _
  have hrisk : (m.assess content name answer).riskScore ≤
      (m.assess content name answer').riskScore :=
    (hcombined.mul (by norm_num) (ascends_ofNat (by norm_num) le_rfl)).round_le
  constructor
  case combinedScore => exact hcombined.atMost
  case riskScore => exact hrisk
  case confidence => exact greatest_mono h.confidence (m.confidence_patterns_ne_nan content name)
  case securityScore => exact sub_le_sub_left hrisk 100
  case isMalicious => exact fun hless => less_of_less_of_atMost hless hcombined.atMost

end MalwareAnalyzer
end ThreatScan
