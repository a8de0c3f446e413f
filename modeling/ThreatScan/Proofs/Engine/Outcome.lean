/-
# How a scan ends

With the shipped catalog a scan fails in two ways only: on a content with too many bytes, and on
one that holds a surrogate and so has no bytes to digest.  The size is looked at first.  All else
that could go wrong on the way is a range check, and `scan_ends` says that none of them refuses
anything: every record of a report keeps its bounds, and a report that was to have an assessment
has one.  Quotients need no clause of their own: `Binary64.ofQuotient` asks for a divisor that is
not zero.

A scorer can spoil that from outside (`scan_spoiled_by_scorer`).  With an infinite time limit one
that is silent keeps the scan waiting for ever.  And a finished answer is not checked on the way in,
so that one out of bounds fails the range check of the assessment, which the report then lacks.
-/
import ThreatScan.Proofs.Assess.Malware
import ThreatScan.Proofs.Assess.Quality
import ThreatScan.Proofs.Engine.Code
import ThreatScan.Proofs.Scan.Indication
import ThreatScan.Proofs.Text.Utf8

namespace ThreatScan

/-! ## 1. Reports within their bounds -/

/-- The numbers of a report and of its records keep their bounds, and its levels match. -/
structure Report.InBounds (r : Report) : Prop where
  levels : Level.pairing r.securityLevel r.riskLevel = []
  threatCount : Decode.Bounds.natural.brokenBy r.threatCount = none
  warningCount : Decode.Bounds.natural.brokenBy r.warningCount = none
  findings : ∀ f ∈ r.findings, f.InBounds
  assessment : ∀ a ∈ r.malwareAssessment, MalwareAnalyzer.violations a = []
  metrics : ∀ m ∈ r.advancedMetrics, Engine.metricsViolations m = []

/-- The same for a report on code. -/
structure CodeReport.InBounds (r : CodeReport) : Prop where
  base : r.toReport.InBounds
  linesOfCode : Decode.Bounds.natural.brokenBy r.linesOfCode = none
  complexityScore : Decode.Bounds.tenths.brokenBy r.complexityScore = none
  securityScore : Decode.Bounds.percent.brokenBy r.securityScore = none
  quality : ∀ q ∈ r.codeQuality, Quality.violations q = []
  performance : ∀ p ∈ r.performanceImpact, Decode.Bounds.percent.brokenBy p.score = none

namespace Engine

/-! ## 2. The steps that can fail -/

variable {e : Engine} {content : Text}

theorem checkSize_eq (label : Text) :
    e.checkSize label content =
      if e.maxBytes < (Text.encode content).length then
        .error (.tooLarge label (Text.encode content).length e.maxBytes)
      else .ok () := by
  simp only [checkSize, Text.encodedLength_eq]

theorem checkSize_eq_ok_iff {label : Text} :
    e.checkSize label content = .ok () ↔ ¬ e.maxBytes < (Text.encode content).length := by
  rw [checkSize_eq]
  split <;> simp_all

theorem digest_of_surrogate (e : Engine) (h : ∃ c ∈ content, Text.isSurrogate c) :
    e.digest content = .error .unhashable := by
  have hany : content.any Text.isSurrogate = true := List.any_eq_true.mpr h
  simp [digest, Digest.ofText, hany]

/-- A digest says that there is no surrogate. -/
theorem no_surrogate_of_digest {contentHash : Text}
    (h : e.digest content = .ok contentHash) : ¬ ∃ c ∈ content, Text.isSurrogate c := by
  intro hsurrogate
  rw [e.digest_of_surrogate hsurrogate] at h
  cases h

theorem digest_of_no_surrogate (e : Engine) (h : ¬ ∃ c ∈ content, Text.isSurrogate c) :
    ∃ contentHash, e.digest content = .ok contentHash := by
  have hany : ¬ content.any Text.isSurrogate = true := fun hany => h (List.any_eq_true.mp hany)
  simp [digest, Digest.ofText, hany]

theorem outcome_scanFile_of_tooLarge {file : FileInput}
    (h : e.maxBytes < (Text.encode file.content).length) :
    (e.scanFile file).outcome =
      .error (.tooLarge file.name (Text.encode file.content).length e.maxBytes) := by
  rw [scanFile_outcome, checkSize_eq, if_pos h]
  rfl

theorem outcome_scanCode_of_tooLarge {code : Text} (sampler : Sampler)
    (h : e.maxBytes < (Text.encode code).length) :
    (e.scanCode code sampler).1.outcome =
      .error (.tooLarge "code" (Text.encode code).length e.maxBytes) := by
  rw [scanCode_outcome, checkSize_eq, if_pos h]
  rfl

/-- How a scan of a content ends: it refuses a content with too many bytes, next one that holds a
surrogate, and otherwise gives a report that is sound. -/
def Ends {α : Type} (e : Engine) (label content : Text) (sound : α → Prop)
    (outcome : Except Failure α) : Prop :=
  let size := (Text.encode content).length
  (outcome = .error (.tooLarge label size e.maxBytes) ↔ e.maxBytes < size) ∧
    (outcome = .error .unhashable ↔ ¬ e.maxBytes < size ∧ ∃ c ∈ content, Text.isSurrogate c) ∧
      ((∃ r, outcome = .ok r ∧ sound r) ↔
        ¬ e.maxBytes < size ∧ ¬ ∃ c ∈ content, Text.isSurrogate c)

/-- A content with too many bytes is refused, whatever else there is to say of the scan. -/
theorem ends_of_tooLarge {α : Type} {label : Text} {sound : α → Prop} {outcome : Except Failure α}
    (hsize : e.maxBytes < (Text.encode content).length)
    (h : outcome = .error (.tooLarge label (Text.encode content).length e.maxBytes)) :
    e.Ends label content sound outcome := by
  simp [Ends, h, hsize]

/-- A chain of a size check, a digest and a report that cannot fail ends that way. -/
theorem ends_of_eq {α : Type} {label : Text} {sound : α → Prop} {outcome : Except Failure α}
    {report : Text → α} (hreport : ∀ contentHash, sound (report contentHash))
    (h : outcome = (e.checkSize label content).bind fun _ =>
      (e.digest content).bind fun contentHash => .ok (report contentHash)) :
    e.Ends label content sound outcome := by
  rw [checkSize_eq] at h
  by_cases hsize : e.maxBytes < (Text.encode content).length
  · rw [if_pos hsize] at h
    simp [Ends, h, hsize, Except.bind]
  rw [if_neg hsize] at h
  by_cases hsurrogate : ∃ c ∈ content, Text.isSurrogate c = true
  · rw [e.digest_of_surrogate hsurrogate] at h
    simp [Ends, h, hsize, hsurrogate, Except.bind]
  · obtain ⟨contentHash, hdigest⟩ := e.digest_of_no_surrogate hsurrogate
    rw [hdigest] at h
    simp [Ends, h, hsize, hsurrogate, Except.bind, hreport]

/-! ## 3. Files -/

theorem inBounds_fileReport (e : Engine) (file : FileInput) (contentHash : Text)
    {assessment : Option MalwareAssessment}
    (h : ∀ a ∈ assessment, MalwareAnalyzer.violations a = []) :
    (e.fileReport file contentHash assessment).InBounds where
  levels := by simp [fileReport, FileFacts.toReport, Level.pairing]
  threatCount := Decode.Bounds.natural_brokenBy.mpr (e.threatCount_nonneg file _ _)
  warningCount := Decode.Bounds.natural_brokenBy.mpr (e.warningCount_nonneg file _ _)
  findings := by
    intro f hf
    simp only [fileReport, FileFacts.toReport, fileFacts, draftOf, fileFindings,
      List.mem_append, Option.mem_toList] at hf
    rcases hf with (hf | hf) | hf
    · exact Matching.inBounds_ofContent f hf
    · exact Matching.inBounds_ofExtension? hf
    · exact Matching.inBounds_ofContent f hf
  assessment := h
  metrics := by
    rintro m ⟨⟩
    exact e.metricsViolations_metricsOf file.content

theorem fileTables_eq_of_tables (hmalware : NoNegativeWeight e.catalog.malware)
    (hsuspicious : NoNegativeWeight e.catalog.suspicious)
    (hobfuscation : NoNegativeWeight e.catalog.obfuscation) : e.fileTables content = .ok () := by
  have hmalware : (Matching.ofContent content e.catalog.malware).complete = .ok _ :=
    Matching.complete_ofContent hmalware
  have hsuspicious : (Matching.ofContent content e.catalog.suspicious).complete = .ok _ :=
    Matching.complete_ofContent hsuspicious
  have hobfuscation : (Matching.ofContent content e.catalog.obfuscation).complete = .ok _ :=
    Matching.complete_ofContent hobfuscation
  simp only [fileTables, hmalware, hsuspicious, hobfuscation, Except.bind]

theorem fileTables_eq (h : e.catalog.NoNegativeWeight) : e.fileTables content = .ok () :=
  fileTables_eq_of_tables (h .malware) (h .suspicious) (h .obfuscation)

/-- An analysis that succeeds gives the assessment. -/
theorem assessment_of_ok (hsecondary : e.usesSecondary = true) {file : FileInput}
    {a : MalwareAssessment} (h : (e.assessFile file.content file.name).outcome = .ok a) :
    (e.assessment file).outcome = .ok (some a) := by
  simp [assessment, hsecondary, h]

/-- There is no other way to an assessment. -/
theorem assessFile_of_assessment {file : FileInput} {a : MalwareAssessment}
    (h : (e.assessment file).outcome = .ok (some a)) :
    (e.assessFile file.content file.name).outcome = .ok a := by
  unfold assessment at h
  split at h
  · cases h
  · cases hanalyze : (e.assessFile file.content file.name).outcome with
    | ok a' =>
      obtain rfl : a' = a := by simpa [hanalyze] using h
      rfl
    | error cause =>
      simp only [hanalyze] at h
      split at h <;> cases h

/-- Without an analysis there is none. -/
theorem assessment_of_off (hoff : e.usesSecondary = false) (file : FileInput) :
    (e.assessment file).outcome = .ok none := by
  rw [assessment, hoff]
  rfl

/-- Nor is there one after an analysis that breaks down. -/
theorem assessment_of_breakdown {file : FileInput} {cause : Failure}
    (hcause : cause.isRecoverable = true)
    (hbreakdown : (e.assessFile file.content file.name).outcome = .error cause) :
    (e.assessment file).outcome = .ok none := by
  unfold assessment
  split
  · rfl
  · simp only [hbreakdown, hcause, if_true]

/-- What the file pipeline gives once the tables are matched, with a known assessment, up to the
steps that the content decides. -/
theorem scanFile_outcome_eq {file : FileInput} {assessment : Option MalwareAssessment}
    (htables : e.fileTables file.content = .ok ())
    (hassessment : (e.assessment file).outcome = .ok assessment) :
    (e.scanFile file).outcome = (e.checkSize file.name file.content).bind fun _ =>
      (e.digest file.content).bind fun contentHash =>
        .ok (e.fileReport file contentHash assessment) := by
  rw [scanFile_outcome, htables, hassessment, both_of_not_pending rfl]
  cases e.checkSize file.name file.content with
  | error cause => rfl
  | ok _ => cases e.digest file.content <;> rfl

/-- The report on a file that is not too large and has a digest. -/
theorem scanFile_eq_ok {file : FileInput} {contentHash : Text}
    {assessment : Option MalwareAssessment} (htables : e.fileTables file.content = .ok ())
    (hassessment : (e.assessment file).outcome = .ok assessment)
    (hsize : ¬ e.maxBytes < (Text.encode file.content).length)
    (hdigest : e.digest file.content = .ok contentHash) :
    (e.scanFile file).outcome = .ok (e.fileReport file contentHash assessment) := by
  rw [scanFile_outcome_eq htables hassessment, checkSize_eq_ok_iff.mpr hsize, hdigest]
  rfl

/-- A scan whose analysis never ends does not end either, unless it fails before. -/
theorem scanFile_of_unending {file : FileInput} (htables : e.fileTables file.content = .ok ())
    (hsecondary : e.usesSecondary = true)
    (hsize : ¬ e.maxBytes < (Text.encode file.content).length)
    (hunending : (e.assessFile file.content file.name).outcome = .error .unending) :
    (e.scanFile file).outcome = .error .unending := by
  have hassessment : (e.assessment file).outcome = .error .unending := by
    simp [assessment, hsecondary, hunending, Failure.isRecoverable]
  rw [scanFile_outcome, htables, hassessment, both_of_pending rfl, checkSize_eq_ok_iff.mpr hsize]
  rfl

section Settings

variable {s : Settings} {catalog : Catalog} {scorer : Scorer} {usesSecondary : Option Bool}
  {clock : Timestamp} {file : FileInput} (hcatalog : catalog.NoNegativeWeight)
include hcatalog

/-- The assessment of a file by an engine for some settings, for an answer of the scorer. -/
theorem outcome_assessment {answer : Except Text ScorerOutput}
    (hread : scorer.read s.secondaryTimeout file.content = .ok answer)
    (hanswer : (MalwareAnalyzer.answerOf answer).InUnit) :
    let e := ofSettings s catalog scorer usesSecondary clock
    (e.assessment file).outcome = .ok (if e.usesSecondary then
      some ((s.malwareAnalyzer catalog scorer).assess file.content file.name answer)
    else none) := by
  intro e
  have hassess : (e.assessFile file.content file.name).outcome = _ :=
    MalwareAnalyzer.analyze_eq (hcatalog .advancedMalware) (hcatalog .anomalies) hread hanswer
  split
  case isTrue hsecondary => exact assessment_of_ok hsecondary hassess
  case isFalse hoff => exact assessment_of_off (Bool.eq_false_iff.mpr hoff) file

variable (usesSecondary clock file)

/-- The report on a file that is assessed, for an answer of the scorer. -/
theorem exists_contentHash {answer : Except Text ScorerOutput}
    (hread : scorer.read s.secondaryTimeout file.content = .ok answer)
    (hanswer : (MalwareAnalyzer.answerOf answer).InUnit)
    (hsecondary : usesSecondary.getD s.secondaryEnabled = true)
    (hsize : ¬ s.scanMaxContentBytes < (Text.encode file.content).length)
    (hsurrogate : ¬ ∃ c ∈ file.content, Text.isSurrogate c) :
    let e := ofSettings s catalog scorer usesSecondary clock
    ∃ contentHash, (e.scanFile file).outcome = .ok (e.fileReport file contentHash
      (some ((s.malwareAnalyzer catalog scorer).assess file.content file.name answer))) := by
  intro e
  have hsecondary : e.usesSecondary = true := hsecondary
  obtain ⟨contentHash, hdigest⟩ := e.digest_of_no_surrogate hsurrogate
  have hassess : (e.assessFile file.content file.name).outcome = _ :=
    MalwareAnalyzer.analyze_eq (hcatalog .advancedMalware) (hcatalog .anomalies) hread hanswer
  exact ⟨contentHash, scanFile_eq_ok (fileTables_eq hcatalog)
    (assessment_of_ok hsecondary hassess) hsize hdigest⟩

/-- The report on a file whose analysis breaks down. -/
theorem exists_contentHash_of_breakdown {cause : Failure}
    (hbreakdown : ((s.malwareAnalyzer catalog scorer).analyze file.content file.name).outcome =
      .error cause) (hcause : cause.isRecoverable = true)
    (hsize : ¬ s.scanMaxContentBytes < (Text.encode file.content).length)
    (hsurrogate : ¬ ∃ c ∈ file.content, Text.isSurrogate c) :
    let e := ofSettings s catalog scorer usesSecondary clock
    ∃ contentHash, (e.scanFile file).outcome = .ok (e.fileReport file contentHash none) := by
  intro e
  obtain ⟨contentHash, hdigest⟩ := e.digest_of_no_surrogate hsurrogate
  exact ⟨contentHash, scanFile_eq_ok (fileTables_eq hcatalog)
    (assessment_of_breakdown hcause hbreakdown) hsize hdigest⟩

/-- **A scorer that comes back costs no scan**: at worst there is no assessment, and not even that
if the scorer is sound. -/
theorem exists_assessment (hback : usesSecondary.getD s.secondaryEnabled = true →
      scorer.ComesBack s.secondaryTimeout file.content) :
    let e := ofSettings s catalog scorer usesSecondary clock
    ∃ assessment, (e.assessment file).outcome = .ok assessment ∧
      (∀ a ∈ assessment, MalwareAnalyzer.violations a = []) ∧
        (scorer.IsSound file.content → assessment.isSome = e.usesSecondary) := by
  intro e
  have hattack : NoNegativeWeight (s.malwareAnalyzer catalog scorer).catalog.advancedMalware :=
    hcatalog .advancedMalware
  have hconcealment : NoNegativeWeight (s.malwareAnalyzer catalog scorer).catalog.anomalies :=
    hcatalog .anomalies
  by_cases hsecondary : e.usesSecondary = true
  case neg =>
    have hoff : e.usesSecondary = false := Bool.eq_false_iff.mpr hsecondary
    exact ⟨none, assessment_of_off hoff file, by simp, fun _ => hoff.symm⟩
  rcases (hback hsecondary).read with ⟨answer, hread⟩ | ⟨reason, hread⟩
  · by_cases hv : MalwareAnalyzer.violations
      ((s.malwareAnalyzer catalog scorer).assess file.content file.name answer) = []
    · have hanalyze := MalwareAnalyzer.analyze_of_passed hattack hconcealment hread hv
      exact ⟨_, assessment_of_ok hsecondary hanalyze, by simpa using hv, fun _ => hsecondary.symm⟩
    · have hanalyze :=
        MalwareAnalyzer.analyze_of_refused hattack hconcealment file.name hread hv
      refine ⟨none, assessment_of_breakdown rfl hanalyze, by simp, fun hsound => absurd ?_ hv⟩
      refine MalwareAnalyzer.violations_assess _ _ _ (MalwareAnalyzer.inUnit_answerOf ?_)
      rintro o rfl
      exact hsound.inUnit_of_read hread
  · have hanalyze :=
      MalwareAnalyzer.analyze_of_unread hattack hconcealment file.name hread
    refine ⟨none, assessment_of_breakdown rfl hanalyze, by simp, ?_⟩
    exact fun hsound => absurd hread (hsound.read_ne_breakdown reason)

/-- **How the scan of a file ends**, and that its report has an assessment if one is wanted.  Only a
scorer that the scan gets to has to come back. -/
theorem ends_scanFile (hback : usesSecondary.getD s.secondaryEnabled = true →
      ¬ s.scanMaxContentBytes < (Text.encode file.content).length →
        scorer.ComesBack s.secondaryTimeout file.content) :
    let e := ofSettings s catalog scorer usesSecondary clock
    e.Ends file.name file.content
      (fun r : Report => r.InBounds ∧
        (scorer.IsSound file.content → r.malwareAssessment.isSome = e.usesSecondary))
      (e.scanFile file).outcome := by
  intro e
  by_cases hsize : e.maxBytes < (Text.encode file.content).length
  case pos => exact ends_of_tooLarge hsize (e.outcome_scanFile_of_tooLarge hsize)
  obtain ⟨assessment, hassessment, hbounds, hsome⟩ :=
    exists_assessment usesSecondary clock file hcatalog fun hsecondary => hback hsecondary hsize
  refine ends_of_eq ?_ (scanFile_outcome_eq (fileTables_eq hcatalog) hassessment)
  exact fun contentHash => ⟨inBounds_fileReport e file contentHash hbounds, hsome⟩

end Settings

/-- A file that is not too large and has no surrogate has a report. -/
theorem exists_scanFile_eq_ok (s : Settings) {catalog : Catalog} (scorer : Scorer)
    (usesSecondary : Option Bool) (clock : Timestamp) (file : FileInput)
    (hcatalog : catalog.NoNegativeWeight)
    (hback : scorer.ComesBack s.secondaryTimeout file.content)
    (hsound : scorer.IsSound file.content)
    (hsize : ¬ s.scanMaxContentBytes < (Text.encode file.content).length)
    (hsurrogate : ¬ ∃ c ∈ file.content, Text.isSurrogate c) :
    ∃ r, ((ofSettings s catalog scorer usesSecondary clock).scanFile file).outcome = .ok r ∧
      r.malwareAssessment.isSome = usesSecondary.getD s.secondaryEnabled := by
  obtain ⟨-, -, hreport⟩ := ends_scanFile usesSecondary clock file hcatalog fun _ _ => hback
  obtain ⟨r, hr, -, hassessment⟩ := hreport.mpr ⟨hsize, hsurrogate⟩
  exact ⟨r, hr, hassessment hsound⟩

/-! ## 4. Code -/

theorem inBounds_codeReport (e : Engine) (code : Text) (sampler : Sampler) (contentHash : Text)
    {performance : PerformanceImpact} (hp : 0 ≤ performance.score ∧ performance.score ≤ 100)
    (hq : ∀ q ∈ (e.qualityOf code).1, Quality.violations q = []) :
    (e.codeReport code sampler contentHash performance).InBounds where
  base :=
    { levels := by simp [codeReport, CodeFacts.toReport, Level.pairing]
      threatCount := Decode.Bounds.natural_brokenBy.mpr (by simp [codeReport, CodeFacts.toReport])
      warningCount := Decode.Bounds.natural_brokenBy.mpr (by simp [codeReport, CodeFacts.toReport])
      findings := fun f hf => Matching.inBounds_ofLines f hf
      assessment := by simp [codeReport, CodeFacts.toReport]
      metrics := by simp [codeReport, CodeFacts.toReport] }
  linesOfCode := Decode.Bounds.natural_brokenBy.mpr (by simp [codeReport, CodeFacts.toReport])
  complexityScore := by
    refine Decode.Bounds.tenths_brokenBy.mpr ?_
    simp only [codeReport, CodeFacts.toReport, CodeFacts.complexity]
    omega
  securityScore := Decode.Bounds.percent_brokenBy.mpr (sampler.score_percent _)
  quality := hq
  performance := by
    rintro p ⟨⟩
    exact Decode.Bounds.percent_brokenBy.mpr hp

/-- Code is assessed exactly if that is wanted, and without failure. -/
theorem qualityOf_ofSettings (s : Settings) {catalog : Catalog} (scorer : Scorer)
    (usesSecondary : Option Bool) (clock : Timestamp) (code : Text)
    (hcatalog : catalog.NoNegativeWeight) :
    let e := ofSettings s catalog scorer usesSecondary clock
    e.qualityOf code = if e.usesSecondary then
      (some (Quality.assessment (Matching.ofLines code catalog.advancedVulnerabilities)
        (Quality.metrics code)), []) else (none, []) := by
  intro e
  have hanalyze : (e.assessCode code).outcome = _ :=
    Quality.analyze_eq (hcatalog .advancedVulnerabilities) code
  simp only [qualityOf, hanalyze]
  rfl

/-- **How the scan of code ends**, and that its report has an assessment if one is wanted. -/
theorem ends_scanCode (s : Settings) {catalog : Catalog} (scorer : Scorer)
    (usesSecondary : Option Bool) (clock : Timestamp) (code : Text) (sampler : Sampler)
    (hcatalog : catalog.NoNegativeWeight) :
    let e := ofSettings s catalog scorer usesSecondary clock
    e.Ends "code" code
      (fun r : CodeReport => r.InBounds ∧ r.codeQuality.isSome = e.usesSecondary)
      (e.scanCode code sampler).1.outcome := by
  intro e
  have hvulnerabilities : (e.vulnerabilitiesOf code).complete = .ok (e.vulnerabilitiesOf code) :=
    Matching.complete_ofLines (hcatalog .vulnerabilities)
  have hobfuscation : (Matching.ofContent code e.catalog.obfuscation).complete = .ok _ :=
    Matching.complete_ofContent (hcatalog .obfuscation)
  obtain ⟨p, hp, hscore⟩ : ∃ p : PerformanceImpact,
      Indication.performance code e.catalog.performance = .ok p ∧ 0 ≤ p.score ∧ p.score ≤ 100 :=
    Indication.performance_eq (hcatalog .performance)
  have hquality : e.qualityOf code = _ :=
    qualityOf_ofSettings s scorer usesSecondary clock code hcatalog
  refine ends_of_eq ?_ (by rw [scanCode_outcome, hvulnerabilities, hobfuscation, hp]; rfl)
  intro contentHash
  refine ⟨inBounds_codeReport e code sampler contentHash hscore ?_, ?_⟩
  · rw [hquality]
    intro q hq
    split at hq
    · obtain rfl := Option.mem_some.mp hq
      exact Quality.violations_assessment _ code
    · cases hq
  · simp only [codeReport, CodeFacts.toReport, codeFacts, codeDraftOf, hquality, apply_ite Prod.fst]
    exact Bool.eq_iff_iff.mpr Option.isSome_ite

/-- Code that is not too large and has no surrogate has a report. -/
theorem exists_scanCode_eq_ok (s : Settings) (scorer : Scorer) (usesSecondary : Option Bool)
    (clock : Timestamp) (code : Text) (sampler : Sampler)
    (hsize : ¬ s.scanMaxContentBytes < (Text.encode code).length)
    (hsurrogate : ¬ ∃ c ∈ code, Text.isSurrogate c) :
    ∃ r, ((ofSettings s Catalog.default scorer usesSecondary clock).scanCode code
        sampler).1.outcome = .ok r ∧
      r.codeQuality.isSome = usesSecondary.getD s.secondaryEnabled := by
  obtain ⟨-, -, hreport⟩ := ends_scanCode s scorer usesSecondary clock code sampler
    Catalog.noNegativeWeight_default
  obtain ⟨r, hr, -, hquality⟩ := hreport.mpr ⟨hsize, hsurrogate⟩
  exact ⟨r, hr, hquality⟩

/-! ## 5. Both pipelines -/

/-- No check refuses anything on the way: every table is matched to its end with findings in
bounds, and the analysis of code succeeds. -/
structure RefusesNothing (e : Engine) (file : FileInput) (code : Text) : Prop where
  inContent : ∀ t, (Matching.ofContent file.content (e.catalog.table t)).refused = none ∧
    ∀ f ∈ (Matching.ofContent file.content (e.catalog.table t)).findings, f.InBounds
  inLines : ∀ t, (Matching.ofLines code (e.catalog.table t)).refused = none ∧
    ∀ f ∈ (Matching.ofLines code (e.catalog.table t)).findings, f.InBounds
  assessCode : ∃ q, (e.assessCode code).outcome = .ok q

theorem refusesNothing_ofSettings (s : Settings) {catalog : Catalog} (scorer : Scorer)
    (usesSecondary : Option Bool) (clock : Timestamp) (file : FileInput) (code : Text)
    (hcatalog : catalog.NoNegativeWeight) :
    (ofSettings s catalog scorer usesSecondary clock).RefusesNothing file code where
  inContent t := ⟨Matching.refused_ofContent (hcatalog t), Matching.inBounds_ofContent⟩
  inLines t := ⟨Matching.refused_ofLines (hcatalog t), Matching.inBounds_ofLines⟩
  assessCode := ⟨_, Quality.analyze_eq (hcatalog .advancedVulnerabilities) code⟩

end Engine
end ThreatScan
