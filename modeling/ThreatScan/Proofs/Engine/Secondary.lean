/-
# What the secondary assessment does to a report

Two runs of one scan, compared.  With an assessment a report is a conservative extension of the
one without (`scanFile_extends`): what the tables say stays, the count of threats can only get the
bonus, and the rest grows at its end.  And of a scorer that fails a scan keeps two zeros and the
message (`scanFile_of_fails`): the report is the one for a scorer that answers with zeros, apart
from the places where the message stands.

Both rest on the report as a function of the assessment, `fileReport`; no event of the two runs
and no step of them needs to be compared.

The message has to be there.  An error that cannot be put into words is lost on the way to one, and
the assessment with it (`scanFile_of_faulty`).
-/
import ThreatScan.Proofs.Engine.Outcome
import ThreatScan.Proofs.Report.Assembly
import ThreatScan.Proofs.Scan.Verdict

namespace ThreatScan

/-! ## 1. With and without an assessment -/

/-- `r` says all that `r₀` says, judges no better, and adds at most an assessment and what follows
from it. -/
structure Report.Extends (r r₀ : Report) : Prop where
  findings : r.findings = r₀.findings
  warningCount : r.warningCount = r₀.warningCount
  advancedMetrics : r.advancedMetrics = r₀.advancedMetrics
  metadata : r.metadata = r₀.metadata
  threatCount : r.threatCount =
    r₀.threatCount + if r.malwareAssessment.any (·.isMalicious) then 2 else 0
  securityLevel : r.securityLevel.securityRank ≤ r₀.securityLevel.securityRank
  vulnerabilities : r₀.vulnerabilities <+: r.vulnerabilities
  suggestions : r₀.suggestions <+: r.suggestions

namespace Engine

theorem securityRank_fileReport_le (e : Engine) (file : FileInput) (contentHash : Text)
    (assessment : Option MalwareAssessment) :
    (e.fileReport file contentHash assessment).securityLevel.securityRank ≤
      (e.fileReport file contentHash none).securityLevel.securityRank := by
  cases assessment with
  | none => exact le_rfl
  | some a => exact Verdict.securityRank_escalate_le _ _ a

theorem fileReport_extends (e : Engine) (file : FileInput) (contentHash : Text)
    (assessment : Option MalwareAssessment) :
    (e.fileReport file contentHash assessment).Extends (e.fileReport file contentHash none) where
  findings := rfl
  warningCount := rfl
  advancedMetrics := rfl
  metadata := rfl
  threatCount := by
    cases assessment with
    | none => exact (add_zero _).symm
    | some a => rfl
  securityLevel := e.securityRank_fileReport_le file contentHash assessment
  vulnerabilities := FileFacts.vulnerabilities_prefix _ assessment
  suggestions := Advice.ofFile_prefix (e.securityRank_fileReport_le file contentHash assessment)

/-- **An assessment only extends a report.**  Whatever the analyzer does, with the secondary
assessment a scan gives the report that it gives without, extended. -/
theorem scanFile_extends (e : Engine) (file : FileInput) {r r₀ : Report}
    (h : (scanFile { e with usesSecondary := true } file).outcome = .ok r)
    (h₀ : (scanFile { e with usesSecondary := false } file).outcome = .ok r₀) :
    r.Extends r₀ := by
  obtain ⟨-, -, contentHash, hdigest, assessment, -, rfl⟩ := (scanFile_eq_ok_iff _ file).mp h
  obtain ⟨-, -, contentHash₀, hdigest₀, assessment₀, hassessment₀, rfl⟩ :=
    (scanFile_eq_ok_iff _ file).mp h₀
  obtain rfl : contentHash = contentHash₀ := Except.ok.inj (hdigest.symm.trans hdigest₀)
  obtain rfl : none = assessment₀ := Except.ok.inj hassessment₀
  exact e.fileReport_extends file contentHash assessment

theorem ofSettings_some (s : Settings) (catalog : Catalog) (scorer : Scorer)
    (usesSecondary : Option Bool) (wanted : Bool) (clock : Timestamp) :
    ofSettings s catalog scorer (some wanted) clock =
      { ofSettings s catalog scorer usesSecondary clock with usesSecondary := wanted } :=
  rfl

/-- The two reports on a program that a scorer was too slow for. -/
theorem scanFile_extends_of_late :
    ∃ r r₀, ((ofSettings {} Catalog.default (fun _ => .late) (some true) default).scanFile
        ⟨"a.exe", "a virus", none, none⟩).outcome = .ok r ∧
      ((ofSettings {} Catalog.default (fun _ => .late) (some false) default).scanFile
        ⟨"a.exe", "a virus", none, none⟩).outcome = .ok r₀ ∧
      r.malwareAssessment.isSome = true ∧ r₀.malwareAssessment.isSome = false ∧
        r.Extends r₀ := by
  obtain ⟨r, hr, hassessment⟩ := exists_scanFile_eq_ok {} (fun _ => .late) (some true) default
    ⟨"a.exe", "a virus", none, none⟩ Catalog.noNegativeWeight_default (by constructor <;> simp)
    (by constructor <;> simp) (by decide +kernel) (by decide +kernel)
  obtain ⟨r₀, hr₀, hassessment₀⟩ := exists_scanFile_eq_ok {} (fun _ => .late) (some false) default
    ⟨"a.exe", "a virus", none, none⟩ Catalog.noNegativeWeight_default (by constructor <;> simp)
    (by constructor <;> simp) (by decide +kernel) (by decide +kernel)
  refine ⟨r, r₀, hr, hr₀, hassessment, hassessment₀, ?_⟩
  rw [ofSettings_some _ _ _ none] at hr hr₀
  exact scanFile_extends _ _ hr hr₀

/-! ## 2. With a scorer that fails -/

/-- A message in the assessment stands in the errors of the report, and nowhere else. -/
theorem fileReport_secondaryError (e : Engine) (file : FileInput) (contentHash : Text)
    (a : MalwareAssessment) (c : CodePoint) (message : Text) :
    e.fileReport file contentHash (some { a with secondaryError := some (c :: message) }) =
      { e.fileReport file contentHash (some a) with
        malwareAssessment := some { a with secondaryError := some (c :: message) }
        errors := [c :: message] } :=
  rfl

/-- **A scorer that fails counts as one that answers with zeros.**  Assessment and report are the
same but for the message, which stands in the assessment and is the only error of the report. -/
theorem scanFile_of_fails (s : Settings) (catalog : Catalog) (scorer zero : Scorer)
    (usesSecondary : Option Bool) (clock : Timestamp) (file : FileInput)
    (hcatalog : catalog.NoNegativeWeight)
    (hsecondary : usesSecondary.getD s.secondaryEnabled = true)
    (hfails : scorer.Fails s.secondaryTimeout file.content)
    (hzero : zero.AnswersWith file.content ⟨0, 0⟩)
    (hsize : ¬ s.scanMaxContentBytes < (Text.encode file.content).length)
    (hsurrogate : ¬ ∃ c ∈ file.content, Text.isSurrogate c) :
    ∃ message a₀ r₀, scorer.read s.secondaryTimeout file.content = .ok (.error message) ∧
      ((s.malwareAnalyzer catalog zero).analyze file.content file.name).outcome = .ok a₀ ∧
      ((s.malwareAnalyzer catalog scorer).analyze file.content file.name).outcome =
        .ok { a₀ with secondaryError := some message } ∧
      ((ofSettings s catalog zero usesSecondary clock).scanFile file).outcome = .ok r₀ ∧
      r₀.malwareAssessment = some a₀ ∧
      ((ofSettings s catalog scorer usesSecondary clock).scanFile file).outcome =
        .ok { r₀ with
          malwareAssessment := some { a₀ with secondaryError := some message }
          errors := [message] } := by
  have htables : ∀ scorer : Scorer,
      (ofSettings s catalog scorer usesSecondary clock).fileTables file.content = .ok () :=
    fun _ => fileTables_eq hcatalog
  obtain ⟨c, message, hread⟩ := hfails.read
  obtain ⟨answer, hread₀, hanswer⟩ := hzero.read s.secondaryTimeout
  rw [ite_self] at hanswer
  have hunit : (MalwareAnalyzer.answerOf answer).InUnit := hanswer ▸ ScorerOutput.inUnit_zero
  obtain ⟨contentHash, hdigest⟩ :
      ∃ contentHash, Digest.ofText s.hashDisplayLength file.content = .ok contentHash :=
    (ofSettings s catalog scorer usesSecondary clock).digest_of_no_surrogate hsurrogate
  have hanalyze₀ :
      ((s.malwareAnalyzer catalog zero).analyze file.content file.name).outcome = _ :=
    MalwareAnalyzer.analyze_eq (hcatalog .advancedMalware) (hcatalog .anomalies) hread₀ hunit
  have hanalyze :
      ((s.malwareAnalyzer catalog scorer).analyze file.content file.name).outcome = _ :=
    MalwareAnalyzer.analyze_eq (hcatalog .advancedMalware) (hcatalog .anomalies) hread
      ScorerOutput.inUnit_zero
  have hassess : (s.malwareAnalyzer catalog scorer).assess file.content file.name
        (.error (c :: message)) =
      { (s.malwareAnalyzer catalog zero).assess file.content file.name answer with
        secondaryError := some (c :: message) } :=
    (s.malwareAnalyzer catalog zero).assess_error file.content file.name (c :: message) hanswer
  rw [hassess] at hanalyze
  have hscan₀ : ((ofSettings s catalog zero usesSecondary clock).scanFile file).outcome = _ :=
    scanFile_eq_ok (htables zero) (assessment_of_ok hsecondary hanalyze₀) hsize hdigest
  have hscan : ((ofSettings s catalog scorer usesSecondary clock).scanFile file).outcome = _ :=
    scanFile_eq_ok (htables scorer) (assessment_of_ok hsecondary hanalyze) hsize hdigest
  rw [fileReport_secondaryError] at hscan
  exact ⟨c :: message, _, _, hread, hanalyze₀, hanalyze, hscan₀, rfl, hscan⟩

/-- A program, a scorer that is down and one that sees no harm in anything. -/
theorem scanFile_of_fails_down :
    ∃ r₀ r, ((ofSettings {} Catalog.default
          (fun _ => .answered (ScorerOutput.toJson ⟨0, 0⟩)) none default).scanFile
        ⟨"a.exe", "a virus", none, none⟩).outcome = .ok r₀ ∧
      ((ofSettings {} Catalog.default (fun _ => .failed "down") none default).scanFile
        ⟨"a.exe", "a virus", none, none⟩).outcome = .ok r ∧
      r.vulnerabilities = r₀.vulnerabilities ∧ r.errors = ["secondary scorer failed: down"] := by
  have hread : Scorer.read 5 (fun _ => .failed "down") "a virus" =
      .ok (.error "secondary scorer failed: down") := by decide +kernel
  have hzero : Scorer.AnswersWith (fun _ => .answered (ScorerOutput.toJson ⟨0, 0⟩)) "a virus"
      ⟨0, 0⟩ :=
    .inl ⟨_, rfl, ScorerOutput.decode_toJson ScorerOutput.inUnit_zero⟩
  obtain ⟨message, a₀, r₀, hmessage, -, -, hr₀, -, hr⟩ :=
    scanFile_of_fails {} Catalog.default (fun _ => .failed "down")
      (fun _ => .answered (ScorerOutput.toJson ⟨0, 0⟩)) none default
      ⟨"a.exe", "a virus", none, none⟩ Catalog.noNegativeWeight_default rfl
      trivial hzero (by decide +kernel) (by decide +kernel)
  obtain rfl : message = "secondary scorer failed: down" :=
    Except.error.inj (Except.ok.inj (hmessage.symm.trans hread))
  exact ⟨r₀, _, hr₀, hr, rfl, rfl⟩

/-- **An error that cannot be put into words takes the assessment away.**  Nothing in the report
tells of the scorer, while a scorer that answers with zeros leaves an assessment. -/
theorem scanFile_of_faulty :
    ∃ r₀ r, ((ofSettings {} Catalog.default
          (fun _ => .answered (ScorerOutput.toJson ⟨0, 0⟩)) none default).scanFile
        ⟨"a.exe", "a virus", none, none⟩).outcome = .ok r₀ ∧
      ((ofSettings {} Catalog.default (fun _ => .faulty "no wording") none default).scanFile
        ⟨"a.exe", "a virus", none, none⟩).outcome = .ok r ∧
      r₀.malwareAssessment.isSome = true ∧ r.malwareAssessment = none ∧ r.errors = [] := by
  have hcatalog := Catalog.noNegativeWeight_default
  obtain ⟨r₀, hr₀, hassessment₀⟩ := exists_scanFile_eq_ok {}
    (fun _ => .answered (ScorerOutput.toJson ⟨0, 0⟩)) none default
    ⟨"a.exe", "a virus", none, none⟩ hcatalog (by constructor <;> simp) (by constructor <;> simp)
    (by decide +kernel) (by decide +kernel)
  have hread : Scorer.read 5 (fun _ => .faulty "no wording") "a virus" =
      .error (.breakdown "no wording") := by decide +kernel
  have hbreakdown := MalwareAnalyzer.analyze_of_unread
    (m := ({} : Settings).malwareAnalyzer .default fun _ => .faulty "no wording")
    (hcatalog .advancedMalware) (hcatalog .anomalies) "a.exe" hread
  obtain ⟨contentHash, hr⟩ := exists_contentHash_of_breakdown none default
    ⟨"a.exe", "a virus", none, none⟩ hcatalog hbreakdown rfl (by decide +kernel) (by decide +kernel)
  exact ⟨r₀, _, hr₀, hr, hassessment₀, rfl, rfl⟩

end Engine
end ThreatScan
