/-
# The malware assessment keeps its bounds

All numbers of an assessment are made from two pattern scores and the answer of the scorer.  The
pattern scores are cut at one and cannot be negative, an answer that was decoded has passed its own
range check, and the blend is moved into the unit interval whatever its shares are.  So the last
check of an assessment does not refuse it (`violations_assessment`), and `analyze_eq` leaves the
scorer as the only thing that an analysis depends on beside the content and the name.

What a scorer can do to an analysis is the first section.  It can keep the scan waiting, or cancel
it (`Scorer.ComesBack` excludes that); and it can break the analysis with an error that cannot be
put into words or with a finished answer that is out of bounds (`Scorer.IsSound` excludes that).
-/
import ThreatScan.Assess.Malware
import ThreatScan.Proofs.Data.Decode
import ThreatScan.Proofs.Scan.Matching

namespace ThreatScan

open Binary64

/-! ## 1. The answer of the scorer -/

/-- Both numbers of an answer lie in the unit interval. -/
structure ScorerOutput.InUnit (o : ScorerOutput) : Prop where
  score : Binary64.InUnit o.score
  confidence : Binary64.InUnit o.confidence

namespace ScorerOutput

theorem inUnit_zero : InUnit ⟨0, 0⟩ := ⟨Binary64.inUnit_zero, Binary64.inUnit_zero⟩

/-- An answer that is decoded has passed the range check. -/
theorem inUnit_of_decode {j : Json} {o : ScorerOutput}
    (h : ScorerOutput.decode j = .valid o) : o.InUnit := by
  obtain ⟨ms, _, h⟩ := Decode.record_eq_valid.mp h
  obtain ⟨g, hg, c, hc, rfl⟩ := Checked.seq_eq_valid.mp h
  obtain ⟨s, hs, rfl⟩ := Checked.map_eq_valid.mp hg
  obtain ⟨_, _, hs⟩ := Decode.required_eq_valid.mp hs
  obtain ⟨_, _, hc⟩ := Decode.required_eq_valid.mp hc
  exact ⟨unit_brokenByNumber.mp (Decode.numberIn_eq_valid.mp hs).2,
    unit_brokenByNumber.mp (Decode.numberIn_eq_valid.mp hc).2⟩

/-- An answer within its bounds survives the way through untyped data. -/
theorem decode_toJson {o : ScorerOutput} (h : o.InUnit) :
    ScorerOutput.decode o.toJson = .valid o := by
  have hs : Decode.numberIn .unit (.float o.score) = .valid o.score :=
    Decode.numberIn_eq_valid.mpr ⟨rfl, unit_brokenByNumber.mpr h.score⟩
  have hc : Decode.numberIn .unit (.float o.confidence) = .valid o.confidence :=
    Decode.numberIn_eq_valid.mpr ⟨rfl, unit_brokenByNumber.mpr h.confidence⟩
  refine Decode.record_eq_valid.mpr ⟨_, rfl, Checked.seq_eq_valid.mpr ?_⟩
  refine ⟨ScorerOutput.mk o.score, ?_, o.confidence, ?_, rfl⟩
  · exact Checked.map_eq_valid.mpr
      ⟨o.score, Decode.required_eq_valid.mpr ⟨_, List.lookup_cons_self, hs⟩, rfl⟩
  · have hne : (Text.ofString "confidence" == Text.ofString "score") = false := by decide +kernel
    exact Decode.required_eq_valid.mpr ⟨_, by simp [List.lookup_cons, hne], hc⟩

end ScorerOutput

namespace Scorer

variable {scorer : Scorer} {timeout : Binary64} {content : Text}

/-- The scan gets over the scorer: nobody cancels it, and the time limit, where it needs one, is
there to stop it. -/
structure ComesBack (scorer : Scorer) (timeout : Binary64) (content : Text) : Prop where
  notCancelled : scorer content ≠ .cancelled
  ofStuck : scorer content = .stuck → timeout.atMost 0 = true
  ofSilent : scorer content = .silent → timeout.less (.inf false) = true

/-- The scorer does not break an analysis: its error, if any, has a wording, and a finished answer
is within the bounds. -/
structure IsSound (scorer : Scorer) (content : Text) : Prop where
  worded : ∀ reason, scorer content ≠ .faulty reason
  inUnit : ∀ o, scorer content = .made o → o.InUnit

theorem comesBack_default (timeout : Binary64) (content : Text) :
    default.ComesBack timeout content := by
  constructor <;> simp [default, ofWords]

theorem isSound_default (content : Text) : default.IsSound content := by
  constructor <;> simp [default, ofWords]

/-- The scorer gives this answer, as untyped data or finished, and it is within the bounds. -/
def AnswersWith (scorer : Scorer) (content : Text) (o : ScorerOutput) : Prop :=
  (∃ value, scorer content = .answered value ∧ ScorerOutput.decode value = .valid o) ∨
    (scorer content = .made o ∧ o.InUnit)

/-- The scorer fails: with an error that can be put into words, by exceeding the time limit, or with
data that is no answer. -/
def Fails (scorer : Scorer) (timeout : Binary64) (content : Text) : Prop :=
  match scorer content with
  | .failed _ | .late => True
  | .silent => timeout.less (.inf false) = true
  | .answered value => ∀ o, ScorerOutput.decode value ≠ .valid o
  | .made _ | .faulty _ | .stuck | .cancelled => False

/-- Of a scorer that comes back an answer is read, or a reason why there is none, unless it breaks
the analysis. -/
theorem ComesBack.read (h : scorer.ComesBack timeout content) :
    (∃ answer, scorer.read timeout content = .ok answer) ∨
      ∃ reason, scorer.read timeout content = .error (.breakdown reason) := by
  unfold Scorer.read
  split
  case isTrue => exact .inl ⟨_, rfl⟩
  case isFalse htime =>
    cases hc : scorer content with
    | answered value => cases hd : ScorerOutput.decode value <;> simp [hd]
    | made o => exact .inl ⟨_, rfl⟩
    | failed reason => exact .inl ⟨_, rfl⟩
    | faulty reason => exact .inr ⟨_, rfl⟩
    | late => exact .inl ⟨_, rfl⟩
    | silent => exact .inl ⟨_, if_pos (h.ofSilent hc)⟩
    | stuck => exact absurd (h.ofStuck hc) htime
    | cancelled => exact absurd hc h.notCancelled

theorem IsSound.read_ne_breakdown (h : scorer.IsSound content) (reason : Text) :
    scorer.read timeout content ≠ .error (.breakdown reason) := by
  unfold Scorer.read
  split
  case isTrue => simp
  case isFalse =>
    cases hc : scorer content with
    | answered value => cases hd : ScorerOutput.decode value <;> simp [hd]
    | faulty reason => exact absurd hc (h.worded reason)
    | silent => by_cases hlimit : timeout.less (.inf false) = true <;> simp [hlimit]
    | _ => simp

/-- An answer that is read of a sound scorer is within the bounds. -/
theorem IsSound.inUnit_of_read (h : scorer.IsSound content) {o : ScorerOutput}
    (hread : scorer.read timeout content = .ok (.ok o)) : o.InUnit := by
  unfold Scorer.read at hread
  split at hread
  case isTrue => cases hread
  case isFalse =>
    cases hc : scorer content with
    | answered value =>
      cases hd : ScorerOutput.decode value with
      | valid o' =>
        obtain rfl : o' = o := by simpa [hc, hd] using hread
        exact ScorerOutput.inUnit_of_decode hd
      | invalid vs => simp [hc, hd] at hread
    | made o' =>
      obtain rfl : o' = o := by simpa [hc] using hread
      exact h.inUnit o' hc
    | silent => by_cases hlimit : timeout.less (.inf false) = true <;> simp [hc, hlimit] at hread
    | _ => simp [hc] at hread

/-- Of a sound scorer that comes back there is an answer within the bounds, or a reason. -/
theorem ComesBack.exists_read (h : scorer.ComesBack timeout content)
    (hsound : scorer.IsSound content) :
    ∃ answer, scorer.read timeout content = .ok answer ∧ ∀ o, answer = .ok o → o.InUnit := by
  obtain ⟨answer, hread⟩ | ⟨reason, hread⟩ := h.read
  · refine ⟨answer, hread, ?_⟩
    rintro o rfl
    exact hsound.inUnit_of_read hread
  · exact absurd hread (hsound.read_ne_breakdown reason)

/-- A scorer that fails leaves a message behind. -/
theorem Fails.read (h : scorer.Fails timeout content) :
    ∃ c message, scorer.read timeout content = .ok (.error (c :: message)) := by
  unfold Fails at h
  unfold Scorer.read
  split
  case isTrue => exact ⟨_, _, rfl⟩
  case isFalse =>
    cases hc : scorer content with
    | answered value =>
      rw [hc] at h
      cases hd : ScorerOutput.decode value with
      | valid o => exact absurd hd (h o)
      | invalid vs =>
        simp only [hd]
        exact ⟨_, _, rfl⟩
    | failed reason => exact ⟨_, _, rfl⟩
    | late => exact ⟨_, _, rfl⟩
    | silent =>
      rw [hc] at h
      exact ⟨_, _, if_pos h⟩
    | _ => simp [hc] at h

/-- A valid answer is what is read, if there is any time for it. -/
theorem AnswersWith.read {o : ScorerOutput} (h : scorer.AnswersWith content o)
    (timeout : Binary64) :
    ∃ answer, scorer.read timeout content = .ok answer ∧
      MalwareAnalyzer.answerOf answer = if timeout.atMost 0 then ⟨0, 0⟩ else o := by
  unfold Scorer.read
  split
  case isTrue => exact ⟨_, rfl, rfl⟩
  case isFalse =>
    rcases h with ⟨value, hvalue, hdecode⟩ | ⟨hmade, -⟩
    · rw [hvalue]
      simp only [hdecode]
      exact ⟨_, rfl, rfl⟩
    · rw [hmade]
      exact ⟨_, rfl, rfl⟩

theorem AnswersWith.inUnit {o : ScorerOutput} (h : scorer.AnswersWith content o) : o.InUnit := by
  rcases h with ⟨value, -, hdecode⟩ | ⟨-, hunit⟩
  · exact ScorerOutput.inUnit_of_decode hdecode
  · exact hunit

end Scorer

/-! ## 2. The pattern scores -/

namespace MalwareAnalyzer

/-- A total, which may have something added to it, as a share of `n` that is cut at one. -/
theorem inUnit_share {total extra : Binary64} {n : ℕ} (hpos : 0 < n) (hn : n < 2 ^ 53)
    (htotal : Nonneg total) (hextra : Nonneg extra) (more : Bool) :
    InUnit (least ((if more then total + extra else total) / ofNat n) 1) := by
  have hsum : Binary64.Nonneg (if more then total + extra else total) := by
    split
    · exact htotal.add hextra
    · exact htotal
  rw [ofNat_eq hn]
  exact (hsum.div (Nat.cast_pos.mpr hpos)).inUnit_least_one

theorem inUnit_patternScore (extensions : List Text) (name content : Text)
    (table : List Signature) :
    let p := patternScore extensions name (Matching.ofContent content table)
    InUnit p.score ∧ InUnit p.confidence := by
  constructor
  · exact inUnit_share (by norm_num) (by norm_num) Matching.nonneg_score_ofContent
      (nonneg_ofScientific _ _ _) _
  · have hcount : Nonneg (ofInt (Matching.ofContent content table).matchCount) :=
      nonneg_ofInt Matching.matchCount_ofContent_nonneg
    have hfactor : Nonneg 0.2 := nonneg_ofScientific _ _ _
    refine Nonneg.inUnit_least_one ⟨hcount.notBelow.mul hfactor.notBelow, ?_⟩
    exact mul_ne_nan hcount.ne_nan hfactor.ne_nan (.inr (by decide +kernel))
      (.inl (by decide +kernel))

theorem inUnit_anomalyScore (isHigh : Bool) (content : Text) (table : List Signature) :
    InUnit (anomalyScore isHigh (Matching.ofContent content table)).score :=
  inUnit_share (by norm_num) (by norm_num) Matching.nonneg_score_ofContent
    (nonneg_ofScientific _ _ _) _

/-! ## 3. The assessment -/

section Assessment

variable (blend : Blend) (patterns : PatternScore) (anomalies : AnomalyScore)
  (answer : Except Text ScorerOutput)

theorem inUnit_combinedScore :
    InUnit (assessment blend patterns anomalies answer).combinedScore :=
  inUnit_clampUnit _

theorem riskScore_bounds :
    let a := assessment blend patterns anomalies answer
    0 ≤ a.riskScore ∧ a.riskScore ≤ 100 :=
  Within.round
    ((inUnit_combinedScore blend patterns anomalies answer).within.mul_ofNat (by norm_num))

variable {blend patterns anomalies answer}

/-- **No number of an assessment is out of bounds.**  It takes that the pattern scores and the
answer of the scorer are not; the blend and the percentages cannot be. -/
theorem violations_assessment
    (hp : InUnit patterns.score) (hc : InUnit patterns.confidence)
    (ha : InUnit anomalies.score) (hanswer : (answerOf answer).InUnit) :
    violations (assessment blend patterns anomalies answer) = [] := by
  have hcombined := inUnit_combinedScore blend patterns anomalies answer
  have hrisk := riskScore_bounds blend patterns anomalies answer
  have hsecurity : 0 ≤ 100 - (assessment blend patterns anomalies answer).riskScore ∧
      100 - (assessment blend patterns anomalies answer).riskScore ≤ 100 := by
    omega
  have h₁ := unit_brokenByNumber.mpr ha
  have h₂ := unit_brokenByNumber.mpr (hanswer.confidence.greatest hc)
  have h₃ := unit_brokenByNumber.mpr hp
  have h₄ := unit_brokenByNumber.mpr hanswer.score
  have h₅ := unit_brokenByNumber.mpr hcombined
  have h₆ := Decode.Bounds.percent_brokenBy.mpr hrisk
  have h₇ := Decode.Bounds.percent_brokenBy.mpr hsecurity
  simp only [assessment] at h₅ h₆ h₇
  simp [violations, assessment, h₁, h₂, h₃, h₄, h₅, h₆, h₇]

end Assessment

/-! ## 4. The analysis -/

/-- The pattern score of a file. -/
def patterns (m : MalwareAnalyzer) (content name : Text) : PatternScore :=
  patternScore m.catalog.executableExtensions name
    (Matching.ofContent content m.catalog.advancedMalware)

/-- The signs of concealment in a content. -/
def anomalies (m : MalwareAnalyzer) (content : Text) : AnomalyScore :=
  anomalyScore (m.entropyThreshold.less (Entropy.ofText content))
    (Matching.ofContent content m.catalog.anomalies)

/-- The assessment of a file for an answer of the scorer. -/
def assess (m : MalwareAnalyzer) (content name : Text) (answer : Except Text ScorerOutput) :
    MalwareAssessment :=
  assessment m.blend (m.patterns content name) (m.anomalies content) answer

variable {m : MalwareAnalyzer} {content name : Text} {answer : Except Text ScorerOutput}

theorem inUnit_answerOf (ho : ∀ o, answer = .ok o → o.InUnit) : (answerOf answer).InUnit := by
  cases answer with
  | ok o => exact ho o rfl
  | error reason => exact ScorerOutput.inUnit_zero

theorem violations_assess (m : MalwareAnalyzer) (content name : Text)
    (hanswer : (answerOf answer).InUnit) : violations (m.assess content name answer) = [] := by
  obtain ⟨hscore, hconfidence⟩ := inUnit_patternScore m.catalog.executableExtensions name content
    m.catalog.advancedMalware
  exact violations_assessment hscore hconfidence
    (inUnit_anomalyScore _ content m.catalog.anomalies) hanswer

/-- Without an answer the assessment is that for two zeros, beside the reason. -/
theorem assess_error (m : MalwareAnalyzer) (content name message : Text)
    (h : answerOf answer = ⟨0, 0⟩) :
    m.assess content name (.error message) =
      { m.assess content name answer with secondaryError := some message } := by
  simp only [assess, assessment, h]
  rfl

theorem outcome_secondary (m : MalwareAnalyzer) (content : Text) :
    (m.secondary content).outcome = m.scorer.read m.timeout content := by
  unfold secondary
  split <;> simp [Traced.fail, *]

section Outcome

variable (hattack : NoNegativeWeight m.catalog.advancedMalware)
  (hconcealment : NoNegativeWeight m.catalog.anomalies)
include hattack hconcealment

/-- **What an analysis comes to** once its tables are matched: what is read of the scorer enters an
assessment, which then has to pass its range check. -/
theorem outcome_analyze :
    (m.analyze content name).outcome =
      (m.scorer.read m.timeout content).bind fun answer =>
        match violations (m.assess content name answer) with
        | [] => .ok (m.assess content name answer)
        | vs => .error (.invalid vs) := by
  simp only [analyze, Traced.outcome_bind, Matching.traced, Matching.complete_ofContent hattack,
    Matching.complete_ofContent hconcealment, outcome_secondary, Except.bind, Traced.outcome_say]
  cases m.scorer.read m.timeout content with
  | error cause => rfl
  | ok answer =>
    simp only [assess, patterns, anomalies]
    generalize assessment _ _ _ _ = a
    cases violations a <;> rfl

/-- A scorer of which nothing can be read ends the analysis. -/
theorem analyze_of_unread (name : Text) {cause : Failure}
    (hread : m.scorer.read m.timeout content = .error cause) :
    (m.analyze content name).outcome = .error cause := by
  rw [outcome_analyze hattack hconcealment, hread]
  rfl

/-- So does an assessment that does not pass its range check. -/
theorem analyze_of_refused (name : Text) (hread : m.scorer.read m.timeout content = .ok answer)
    (h : violations (m.assess content name answer) ≠ []) :
    (m.analyze content name).outcome =
      .error (.invalid (violations (m.assess content name answer))) := by
  rw [outcome_analyze hattack hconcealment, hread]
  simp only [Except.bind]

theorem analyze_of_passed (hread : m.scorer.read m.timeout content = .ok answer)
    (h : violations (m.assess content name answer) = []) :
    (m.analyze content name).outcome = .ok (m.assess content name answer) := by
  rw [outcome_analyze hattack hconcealment, hread]
  simp only [Except.bind, h]

/-- **An analysis depends on the scorer only through its answer.** -/
theorem analyze_eq (hread : m.scorer.read m.timeout content = .ok answer)
    (hanswer : (answerOf answer).InUnit) :
    (m.analyze content name).outcome = .ok (m.assess content name answer) :=
  analyze_of_passed hattack hconcealment hread (violations_assess m content name hanswer)

end Outcome

/-- What stands behind an assessment. -/
theorem exists_answer_of_analyze {a : MalwareAssessment}
    (h : (m.analyze content name).outcome = .ok a) :
    ∃ answer, m.scorer.read m.timeout content = .ok answer ∧ a = m.assess content name answer ∧
      violations a = [] := by
  simp only [analyze, Traced.outcome_bind_eq_ok, outcome_secondary] at h
  obtain ⟨attack, hattack, concealment, hconcealment, answer, hread, _, -, h⟩ := h
  obtain rfl := (Matching.complete_eq_ok_iff.mp hattack).2
  obtain rfl := (Matching.complete_eq_ok_iff.mp hconcealment).2
  split at h
  case h_1 hv =>
    obtain rfl := Except.ok.inj h
    exact ⟨answer, hread, rfl, hv⟩
  case h_2 => cases h

end MalwareAnalyzer

/-! ## 5. The numbers of an assessment -/

/-- The five numbers of an assessment lie in the unit interval. -/
structure MalwareAssessment.InUnit (a : MalwareAssessment) : Prop where
  confidence : Binary64.InUnit a.confidence
  patternScore : Binary64.InUnit a.patternScore
  secondaryScore : Binary64.InUnit a.secondaryScore
  combinedScore : Binary64.InUnit a.combinedScore
  anomalyScore : Binary64.InUnit a.anomalyDetection.anomalyScore

namespace MalwareAnalyzer

/-- The range check of an assessment lets nothing else pass. -/
theorem inUnit_of_violations {a : MalwareAssessment} (h : violations a = []) : a.InUnit := by
  unfold violations at h
  simp only at h
  split at h
  case h_1 => cases h
  case h_2 hanomaly =>
    simp only [List.append_eq_nil_iff, Option.toList_eq_nil_iff, Option.map_eq_none_iff]
      at h hanomaly
    obtain ⟨⟨⟨⟨⟨hconfidence, hpattern⟩, hsecondary⟩, hcombined⟩, -⟩, -⟩ := h
    exact ⟨unit_brokenByNumber.mp hconfidence, unit_brokenByNumber.mp hpattern,
      unit_brokenByNumber.mp hsecondary, unit_brokenByNumber.mp hcombined,
      unit_brokenByNumber.mp hanomaly⟩

/-- A finished answer is taken over as it is, so one with a score out of bounds ends the
analysis. -/
theorem exists_violations_of_made {m : MalwareAnalyzer} {o : ScorerOutput}
    (hattack : NoNegativeWeight m.catalog.advancedMalware)
    (hconcealment : NoNegativeWeight m.catalog.anomalies) (content name : Text)
    (htime : m.timeout.atMost 0 = false) (hmade : m.scorer content = .made o)
    (hscore : ¬ Binary64.InUnit o.score) :
    ∃ vs, (m.analyze content name).outcome = .error (.invalid vs) := by
  have hread : m.scorer.read m.timeout content = .ok (.ok o) := by
    simp only [Scorer.read, htime, hmade, Bool.false_eq_true, if_false]
  refine ⟨_, analyze_of_refused hattack hconcealment name hread ?_⟩
  exact fun hv => hscore (inUnit_of_violations hv).secondaryScore

/-- **Whatever a scorer does, an assessment has all its numbers in the unit interval.** -/
theorem inUnit_of_analyze {m : MalwareAnalyzer} {content name : Text} {a : MalwareAssessment}
    (h : (m.analyze content name).outcome = .ok a) : a.InUnit := by
  obtain ⟨answer, -, -, hv⟩ := exists_answer_of_analyze h
  exact inUnit_of_violations hv

end MalwareAnalyzer
end ThreatScan
