/-
# What the answer of the scorer does to a report

Two scans of one file by engines that differ in the scorer alone.  Their reports are made from the
same draft and the same digest, so they differ in the assessment and in what follows from it, and
the order of the answers is that of the assessments.  Hence the verdict on a file is monotone in
the answer (`scanFile_mono`), and what a scorer returns is no better for a file than a failure
(`scanFile_of_answered`): untyped data of any shape is decoded or refused, and so checked.

A finished answer is not.  One that was put together out of bounds fails the range check of the
assessment, whose numbers stay in bounds that way; but then the report has no assessment at all, and
a verdict that the patterns are sure of is gone (`scanFile_condemned_of_made`).
-/
import ThreatScan.Proofs.Assess.Answer
import ThreatScan.Proofs.Engine.Outcome
import ThreatScan.Proofs.Scan.Findings

namespace ThreatScan

/-- `r` judges no better than `r₀`, in its counts, in its level and in its assessment. -/
structure Report.AtLeast (r r₀ : Report) : Prop where
  threatCount : r₀.threatCount ≤ r.threatCount
  securityLevel : r.securityLevel.securityRank ≤ r₀.securityLevel.securityRank
  malwareAssessment :
    Option.Rel MalwareAssessment.AtLeast r.malwareAssessment r₀.malwareAssessment

/-- An answer that is half sure of everything. -/
theorem ScorerOutput.inUnit_half : InUnit ⟨0.5, 1⟩ :=
  ⟨Binary64.unit_brokenByNumber.mp (by decide +kernel),
    Binary64.unit_brokenByNumber.mp (by decide +kernel)⟩

namespace Engine

/-! ## 1. Two scorers -/

/-- A worse assessment makes no report better. -/
theorem fileReport_mono {a a₀ : MalwareAssessment} (h : a.AtLeast a₀) (e : Engine)
    (file : FileInput) (contentHash : Text) :
    (e.fileReport file contentHash (some a)).AtLeast
      (e.fileReport file contentHash (some a₀)) where
  threatCount := add_le_add_right (Verdict.maliciousBonus_mono h) _
  securityLevel := Verdict.securityRank_escalate_mono h _ _
  malwareAssessment := .some h

section

variable {s : Settings} {catalog : Catalog} {scorer scorer' : Scorer}
  {usesSecondary : Option Bool} {clock : Timestamp} {file : FileInput} {r : Report}
  {answer answer' : Except Text ScorerOutput} (hcatalog : catalog.NoNegativeWeight)
include hcatalog

/-- What stands behind a report, when it is known what is read of the scorer. -/
theorem eq_fileReport_of_scanFile
    (hread : scorer.read s.secondaryTimeout file.content = .ok answer)
    (hanswer : (MalwareAnalyzer.answerOf answer).InUnit)
    (hr : ((ofSettings s catalog scorer usesSecondary clock).scanFile file).outcome = .ok r) :
    ∃ contentHash, ¬ s.scanMaxContentBytes < (Text.encode file.content).length ∧
      Digest.ofText s.hashDisplayLength file.content = .ok contentHash ∧
        r = (ofSettings s catalog scorer usesSecondary clock).fileReport file contentHash
          (if usesSecondary.getD s.secondaryEnabled then
            some ((s.malwareAnalyzer catalog scorer).assess file.content file.name answer)
          else none) := by
  obtain ⟨hsize, -, contentHash, hdigest, assessment, hassessment, rfl⟩ :=
    (scanFile_eq_ok_iff _ file).mp hr
  rw [outcome_assessment hcatalog hread hanswer] at hassessment
  obtain rfl := Except.ok.inj hassessment
  exact ⟨contentHash, checkSize_eq_ok_iff.mp hsize, hdigest, rfl⟩

/-- Two scans with a report each: what is read of the scorers decides how they compare. -/
theorem scanFile_atLeast (hread : scorer.read s.secondaryTimeout file.content = .ok answer)
    (hread' : scorer'.read s.secondaryTimeout file.content = .ok answer')
    (hanswer : (MalwareAnalyzer.answerOf answer).InUnit)
    (hanswer' : (MalwareAnalyzer.answerOf answer').InUnit)
    (hassess : ((s.malwareAnalyzer catalog scorer').assess file.content file.name answer').AtLeast
      ((s.malwareAnalyzer catalog scorer).assess file.content file.name answer))
    (hr : ((ofSettings s catalog scorer usesSecondary clock).scanFile file).outcome = .ok r) :
    ∃ r', ((ofSettings s catalog scorer' usesSecondary clock).scanFile file).outcome = .ok r' ∧
      r'.malwareAssessment = (if usesSecondary.getD s.secondaryEnabled then
        some ((s.malwareAnalyzer catalog scorer').assess file.content file.name answer')
      else none) ∧ r'.AtLeast r := by
  obtain ⟨contentHash, hsize, hdigest, rfl⟩ :=
    eq_fileReport_of_scanFile hcatalog hread hanswer hr
  refine ⟨_, scanFile_eq_ok (fileTables_eq hcatalog) (outcome_assessment hcatalog hread' hanswer')
    hsize hdigest, rfl, ?_⟩
  show Report.AtLeast (fileReport _ file contentHash (if usesSecondary.getD _ then _ else _)) _
  split
  · exact fileReport_mono hassess _ file contentHash
  · exact ⟨le_rfl, le_rfl, .none⟩

end

/-- **The verdict on a file is monotone in the answer of the scorer.**  A file that can be scanned
with one scorer can be scanned with another one, and if the other answers at least as much, its
report judges no better.  A scorer that fails counts as one that answers with zeros. -/
theorem scanFile_mono (s : Settings) (catalog : Catalog) (scorer scorer' : Scorer)
    (usesSecondary : Option Bool) (clock : Timestamp) (file : FileInput) (o o' : ScorerOutput)
    (r : Report) (hcatalog : catalog.NoNegativeWeight)
    (hcounts : scorer.CountsAs s.secondaryTimeout file.content o)
    (hcounts' : scorer'.CountsAs s.secondaryTimeout file.content o')
    (hle : o.AtMost o')
    (hr : ((ofSettings s catalog scorer usesSecondary clock).scanFile file).outcome = .ok r) :
    ∃ r', ((ofSettings s catalog scorer' usesSecondary clock).scanFile file).outcome = .ok r' ∧
      r'.AtLeast r ∧ r'.malwareAssessment.isSome = usesSecondary.getD s.secondaryEnabled := by
  obtain ⟨answer, answer', hread, hread', hanswers⟩ := hcounts.read_mono hcounts' hle
  have hassess : ((s.malwareAnalyzer catalog scorer').assess file.content file.name answer').AtLeast
      ((s.malwareAnalyzer catalog scorer).assess file.content file.name answer) :=
    MalwareAnalyzer.assess_mono Blend.isSound_default file.content file.name hanswers
  obtain ⟨r', hr', hassessment, hatLeast⟩ := scanFile_atLeast hcatalog hread hread'
    (hcounts.inUnit_read hread) (hcounts'.inUnit_read hread') hassess hr
  refine ⟨r', hr', hatLeast, ?_⟩
  rw [hassessment]
  exact Bool.eq_iff_iff.mpr Option.isSome_ite

/-- A scorer that is down and one that is half sure, on the same program. -/
theorem scanFile_mono_of_down :
    ∃ r r', ((ofSettings {} Catalog.default (fun _ => .failed "down") none default).scanFile
        ⟨"a.exe", "a virus", none, none⟩).outcome = .ok r ∧
      ((ofSettings {} Catalog.default
          (fun _ => .answered (ScorerOutput.toJson ⟨0.5, 1⟩)) none default).scanFile
        ⟨"a.exe", "a virus", none, none⟩).outcome = .ok r' ∧
      r'.AtLeast r ∧ r'.malwareAssessment.isSome = true := by
  have hdown : Scorer.CountsAs (fun _ => .failed "down") 5 "a virus" ⟨0, 0⟩ :=
    .inr ⟨trivial, rfl⟩
  have hhalf : Scorer.CountsAs (fun _ => .answered (ScorerOutput.toJson ⟨0.5, 1⟩)) 5 "a virus"
      ⟨0.5, 1⟩ :=
    .inl (.inl ⟨_, rfl, ScorerOutput.decode_toJson ScorerOutput.inUnit_half⟩)
  have hle : ScorerOutput.AtMost ⟨0, 0⟩ ⟨0.5, 1⟩ := ⟨by decide +kernel, by decide +kernel⟩
  obtain ⟨r, hr, -⟩ := exists_scanFile_eq_ok {} (fun _ => .failed "down") none default
    ⟨"a.exe", "a virus", none, none⟩ Catalog.noNegativeWeight_default (by constructor <;> simp)
    (by constructor <;> simp) (by decide +kernel) (by decide +kernel)
  obtain ⟨r', hr', hatLeast, hassessment⟩ :=
    scanFile_mono {} Catalog.default _ _ none default ⟨"a.exe", "a virus", none, none⟩ _ _ r
      Catalog.noNegativeWeight_default hdown hhalf hle hr
  exact ⟨r, r', hr, hr', hatLeast, hassessment⟩

/-! ## 2. What scorers return -/

/-- **Nothing that a scorer returns corrupts an assessment.**  Whatever the scorer is, an assessment
that it has part in consists of numbers in the unit interval.  If it returns untyped data of any
shape, or a finished answer within the bounds, then there is an assessment, and neither this one nor
the report judges better than with a scorer that fails. -/
theorem scanFile_of_answered (s : Settings) (scorer failing : Scorer)
    (usesSecondary : Option Bool) (clock : Timestamp) (file : FileInput)
    (hreturns : scorer.Returns file.content)
    (hfails : failing.Fails s.secondaryTimeout file.content) :
    (∀ (any : Scorer) (a : MalwareAssessment),
      ((s.malwareAnalyzer Catalog.default any).analyze file.content file.name).outcome = .ok a →
        a.InUnit) ∧
    ∃ a a₀,
      ((s.malwareAnalyzer Catalog.default scorer).analyze file.content file.name).outcome = .ok a ∧
      ((s.malwareAnalyzer Catalog.default failing).analyze file.content file.name).outcome =
        .ok a₀ ∧
      a.InUnit ∧ a.AtLeast a₀ ∧
      ∀ r₀, ((ofSettings s Catalog.default failing usesSecondary clock).scanFile file).outcome =
          .ok r₀ →
        ∃ r, ((ofSettings s Catalog.default scorer usesSecondary clock).scanFile file).outcome =
            .ok r ∧
          r.malwareAssessment = (if usesSecondary.getD s.secondaryEnabled then some a else none) ∧
          r.AtLeast r₀ := by
  have hcatalog := Catalog.noNegativeWeight_default
  obtain ⟨o, hcounts⟩ := hreturns.countsAs s.secondaryTimeout
  have hcounts₀ : failing.CountsAs s.secondaryTimeout file.content ⟨0, 0⟩ := .inr ⟨hfails, rfl⟩
  obtain ⟨answer₀, answer, hread₀, hread, hanswers⟩ :=
    hcounts₀.read_mono hcounts hcounts.inUnit.zero_atMost
  have hunit := hcounts.inUnit_read hread
  have hunit₀ := hcounts₀.inUnit_read hread₀
  have hassess : ((s.malwareAnalyzer .default scorer).assess file.content file.name answer).AtLeast
      ((s.malwareAnalyzer .default failing).assess file.content file.name answer₀) :=
    MalwareAnalyzer.assess_mono Blend.isSound_default file.content file.name hanswers
  refine ⟨fun _ _ ha => MalwareAnalyzer.inUnit_of_analyze ha, _, _,
    MalwareAnalyzer.analyze_eq (hcatalog .advancedMalware) (hcatalog .anomalies) hread hunit,
    MalwareAnalyzer.analyze_eq (hcatalog .advancedMalware) (hcatalog .anomalies) hread₀ hunit₀,
    ?_, hassess, fun r₀ hr₀ => scanFile_atLeast hcatalog hread₀ hread hunit₀ hunit hassess hr₀⟩
  exact MalwareAnalyzer.inUnit_of_violations (MalwareAnalyzer.violations_assess _ _ _ hunit)

/-- A scorer that is half sure, and one that is down. -/
theorem scanFile_of_answered_half :
    ∃ a a₀ r₀ r,
      ((({} : Settings).malwareAnalyzer Catalog.default
          (fun _ => .answered (ScorerOutput.toJson ⟨0.5, 1⟩))).analyze "a virus" "a.exe").outcome =
        .ok a ∧
      ((({} : Settings).malwareAnalyzer Catalog.default
          (fun _ => .failed "down")).analyze "a virus" "a.exe").outcome = .ok a₀ ∧
      a.InUnit ∧ a.AtLeast a₀ ∧
      ((ofSettings {} Catalog.default (fun _ => .failed "down") none default).scanFile
        ⟨"a.exe", "a virus", none, none⟩).outcome = .ok r₀ ∧
      ((ofSettings {} Catalog.default
          (fun _ => .answered (ScorerOutput.toJson ⟨0.5, 1⟩)) none default).scanFile
        ⟨"a.exe", "a virus", none, none⟩).outcome = .ok r ∧
      r.malwareAssessment = some a ∧ r.AtLeast r₀ := by
  obtain ⟨-, a, a₀, ha, ha₀, hunit, hatLeast, hscan⟩ :=
    scanFile_of_answered {} (fun _ => .answered (ScorerOutput.toJson ⟨0.5, 1⟩))
      (fun _ => .failed "down") none default ⟨"a.exe", "a virus", none, none⟩
      (.inl ⟨_, rfl⟩) trivial
  obtain ⟨r₀, hr₀, -⟩ := exists_scanFile_eq_ok {} (fun _ => .failed "down") none default
    ⟨"a.exe", "a virus", none, none⟩ Catalog.noNegativeWeight_default (by constructor <;> simp)
    (by constructor <;> simp) (by decide +kernel) (by decide +kernel)
  obtain ⟨r, hr, hassessment, hreport⟩ := hscan r₀ hr₀
  exact ⟨a, a₀, r₀, r, ha, ha₀, hunit, hatLeast, hr₀, hr, hassessment, hreport⟩

/-! ## 3. Finished answers out of bounds -/

/-- A malicious assessment above the bar of certainty decides the level alone. -/
theorem securityLevel_eq_low_of_certain (e : Engine) (file : FileInput) (contentHash : Text)
    {a : MalwareAssessment} (h : a.isMalicious ∧ Binary64.less Verdict.certainty a.confidence) :
    (e.fileReport file contentHash (some a)).securityLevel = .low :=
  Level.worse_eq_low.mpr (.inr (Verdict.ofAssessment_eq_low.mpr (.inr h)))

/-- Without an assessment the counts of the tables decide it. -/
theorem securityLevel_of_none (e : Engine) (file : FileInput) (contentHash : Text) :
    (e.fileReport file contentHash none).securityLevel =
      Verdict.ofFile (e.draftOf file).threatCount (e.draftOf file).warningCount :=
  rfl

/-- A file that the patterns condemn by themselves: four times a word for remote control, and
seven escapes. -/
def condemned : FileInput :=
  ⟨"notes.txt", "c2c2c2c2\\x41\\x41\\x41\\x41\\x41\\x41\\x41", none, none⟩

/-- Whatever its entropy is, it is malicious and the patterns are sure of it. -/
theorem condemned_by_patterns :
    let patterns := MalwareAnalyzer.patternScore Shipped.executableExtensions condemned.name
      (Matching.ofContent condemned.content Shipped.advancedMalware)
    let anomalies := Matching.ofContent condemned.content Shipped.anomalies
    (∀ isHigh, Binary64.less 0.6 (Blend.default.combine patterns.score 0
      (MalwareAnalyzer.anomalyScore isHigh anomalies).score) = true) ∧
      Binary64.less Verdict.certainty (Binary64.greatest 0 patterns.confidence) = true := by
  simp only [Matching.ofContent, Matching.inContent?_eq_scanContent?]
  decide +kernel

theorem isMalicious_condemned (scorer : Scorer) {answer : Except Text ScorerOutput}
    (h : (MalwareAnalyzer.answerOf answer).score = 0) :
    ((({} : Settings).malwareAnalyzer Catalog.default scorer).assess condemned.content
      condemned.name answer).isMalicious = true := by
  show Binary64.less 0.6 (Blend.default.combine _ (MalwareAnalyzer.answerOf answer).score _) = true
  rw [h]
  exact condemned_by_patterns.1 _

/-- It holds none of the words of the first table and has no extension of a program. -/
theorem threatCount_condemned (s : Settings) (scorer : Scorer) (usesSecondary : Option Bool)
    (clock : Timestamp) :
    ((ofSettings s Catalog.default scorer usesSecondary clock).draftOf condemned).threatCount =
      0 := by
  show ((Matching.ofContent condemned.content Shipped.malware).signatureCount +
    (Matching.ofExtension? condemned.name Shipped.suspiciousExtensions).toList.length : ℤ) = 0
  rw [Matching.ofContent, Matching.inContent?_eq_scanContent?]
  decide +kernel

/-- Nor any of the second one. -/
theorem warningCount_condemned (s : Settings) (scorer : Scorer) (usesSecondary : Option Bool)
    (clock : Timestamp) :
    ((ofSettings s Catalog.default scorer usesSecondary clock).draftOf condemned).warningCount =
      0 := by
  show ((Matching.ofContent condemned.content Shipped.suspicious).signatureCount : ℤ) = 0
  rw [Matching.ofContent, Matching.inContent?_eq_scanContent?]
  decide +kernel

/-- **A finished answer out of bounds makes the verdict better.**  The level of the file is LOW with
a scorer that fails, and HIGH with this answer, since the assessment is refused. -/
theorem scanFile_condemned_of_made :
    ∃ vs r r₀,
      ((({} : Settings).malwareAnalyzer Catalog.default (fun _ => .made ⟨2, 5⟩)).analyze
        condemned.content condemned.name).outcome = .error (.invalid vs) ∧
      ((ofSettings {} Catalog.default (fun _ => .made ⟨2, 5⟩) none default).scanFile
        condemned).outcome = .ok r ∧
      r.malwareAssessment = none ∧
      ((ofSettings {} Catalog.default (fun _ => .failed "down") none default).scanFile
        condemned).outcome = .ok r₀ ∧
      r₀.malwareAssessment.isSome = true ∧
      r₀.securityLevel = .low ∧ r.securityLevel = .high := by
  have hcatalog := Catalog.noNegativeWeight_default
  have hsize : ¬ ({} : Settings).scanMaxContentBytes < (Text.encode condemned.content).length := by
    decide +kernel
  have hsurrogate : ¬ ∃ c ∈ condemned.content, Text.isSurrogate c := by decide +kernel
  have hscore : ¬ Binary64.InUnit 2 := fun h =>
    absurd (Binary64.unit_brokenByNumber.mpr h) (by decide +kernel)
  obtain ⟨vs, hrefused⟩ := MalwareAnalyzer.exists_violations_of_made
    (m := ({} : Settings).malwareAnalyzer .default fun _ => .made ⟨2, 5⟩)
    (hcatalog .advancedMalware) (hcatalog .anomalies) condemned.content condemned.name
    (by decide +kernel) rfl hscore
  obtain ⟨contentHash, hr⟩ := exists_contentHash_of_breakdown none default condemned hcatalog
    hrefused rfl hsize hsurrogate
  obtain ⟨c, message, hread⟩ := Scorer.Fails.read
    (show Scorer.Fails (fun _ => .failed "down") 5 condemned.content from trivial)
  have hunit : (MalwareAnalyzer.answerOf (.error (c :: message))).InUnit :=
    ScorerOutput.inUnit_zero
  obtain ⟨contentHash₀, hr₀⟩ := exists_contentHash none default condemned hcatalog hread hunit
    rfl hsize hsurrogate
  have hhigh : ((ofSettings {} Catalog.default (fun _ => .made ⟨2, 5⟩) none default).fileReport
      condemned contentHash none).securityLevel = .high := by
    rw [securityLevel_of_none, threatCount_condemned, warningCount_condemned]
    rfl
  exact ⟨vs, _, _, hrefused, hr, rfl, hr₀, rfl, securityLevel_eq_low_of_certain _ _ _
    ⟨isMalicious_condemned _ rfl, condemned_by_patterns.2⟩, hhigh⟩

end Engine
end ThreatScan
