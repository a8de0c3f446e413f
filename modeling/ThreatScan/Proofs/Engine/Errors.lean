/-
# What a report says of an assessment that was lost

A scan goes on without an assessment that it cannot have, so the reader of a report has only the
list of errors to tell such a scan from a complete one.  The list is right about the scorer, which
may fail, be late or answer with anything, and about the analysis of code: it is empty exactly if
nothing was lost (`scan_recordsErrors`).

It is not right about the analysis of a file.  When that breaks down itself the reason is only
logged, and the report is the one of a scan that was to assess nothing
(`outcome_scanFile_of_breakdown`).  A table with a negative weight is enough for it
(`errors_of_negativeWeight`).
-/
import ThreatScan.Proofs.Engine.Outcome
import ThreatScan.Proofs.Scan.Findings

namespace ThreatScan

/-! ## 1. What is left of a scorer -/

/-- The scorer has time and answers, with valid data or with a finished answer. -/
def Scorer.Answers (scorer : Scorer) (timeout : Binary64) (content : Text) : Prop :=
  timeout.atMost 0 = false ∧
    ((∃ value o, scorer content = .answered value ∧ ScorerOutput.decode value = .valid o) ∨
      ∃ o, scorer content = .made o)

/-- What is read of a scorer is an answer exactly if it answers; a reason why there is none is never
empty. -/
theorem Scorer.reasonOf_read {scorer : Scorer} {timeout : Binary64} {content : Text}
    {answer : Except Text ScorerOutput} (h : scorer.read timeout content = .ok answer) :
    (scorer.Answers timeout content ∧ MalwareAnalyzer.reasonOf answer = none) ∨
      (¬ scorer.Answers timeout content ∧
        ∃ c message, MalwareAnalyzer.reasonOf answer = some (c :: message)) := by
  unfold Scorer.read at h
  split at h
  case isTrue htime =>
    obtain rfl := Except.ok.inj h
    exact .inr ⟨fun hanswers => Bool.eq_false_iff.mp hanswers.1 htime, _, _, rfl⟩
  case isFalse htime =>
    have hanswers : scorer.Answers timeout content ↔
        (∃ value o, scorer content = .answered value ∧ ScorerOutput.decode value = .valid o) ∨
          ∃ o, scorer content = .made o :=
      and_iff_right (Bool.eq_false_iff.mpr htime)
    rw [hanswers]
    cases hc : scorer content with
    | answered value =>
      cases hdecode : ScorerOutput.decode value with
      | valid o =>
        obtain rfl : .ok o = answer := by simpa [hc, hdecode] using h
        exact .inl ⟨.inl ⟨value, o, rfl, hdecode⟩, rfl⟩
      | invalid violations =>
        obtain rfl : .error _ = answer := by simpa only [hc, hdecode, Except.ok.injEq] using h
        exact .inr ⟨by simp [hdecode], _, _, rfl⟩
    | made o =>
      obtain rfl : .ok o = answer := by simpa [hc] using h
      exact .inl ⟨.inr ⟨o, rfl⟩, rfl⟩
    | failed reason =>
      obtain rfl : .error _ = answer := by simpa only [hc, Except.ok.injEq] using h
      exact .inr ⟨by simp, _, _, rfl⟩
    | late =>
      obtain rfl : .error _ = answer := by simpa only [hc, Except.ok.injEq] using h
      exact .inr ⟨by simp, _, _, rfl⟩
    | silent =>
      by_cases hlimit : timeout.less (.inf false) = true
      · obtain rfl : .error _ = answer := by
          simpa only [hc, hlimit, if_true, Except.ok.injEq] using h
        exact .inr ⟨by simp, _, _, rfl⟩
      · simp [hc, hlimit] at h
    | _ => simp [hc] at h

/-- An assessment tells what was read of the scorer. -/
theorem MalwareAnalyzer.secondaryError_of_analyze {m : MalwareAnalyzer} {content name : Text}
    {a : MalwareAssessment} (h : (m.analyze content name).outcome = .ok a) :
    ∃ answer, m.scorer.read m.timeout content = .ok answer ∧
      a.secondaryError = reasonOf answer := by
  obtain ⟨answer, hread, rfl, -⟩ := exists_answer_of_analyze h
  exact ⟨answer, hread, rfl⟩

namespace Engine

variable (e : Engine)

/-! ## 2. Files -/

/-- The errors of a report are the reason that stands in its assessment. -/
theorem errors_fileReport (file : FileInput) (contentHash : Text) (a : MalwareAssessment) :
    (e.fileReport file contentHash (some a)).errors = [] ↔
      a.secondaryError = none ∨ a.secondaryError = some [] := by
  simp only [fileReport, FileFacts.toReport, fileFacts, Option.bind_some]
  rcases a.secondaryError with _ | _ | ⟨c, reason⟩ <;> simp

/-- An analysis that succeeds costs no report, and the errors of the report tell whether the scorer
has answered. -/
theorem scanFile_recordsErrors {m : MalwareAnalyzer} {file : FileInput} {a : MalwareAssessment}
    (hanalyzer : e.assessFile = m.analyze) (hsecondary : e.usesSecondary = true)
    (ha : (m.analyze file.content file.name).outcome = .ok a) :
    ((∃ r, (e.scanFile file).outcome = .ok r) ↔
        ∃ r₀, (scanFile { e with usesSecondary := false } file).outcome = .ok r₀) ∧
      ∀ r, (e.scanFile file).outcome = .ok r →
        (r.errors = [] ↔ m.scorer.Answers m.timeout file.content) := by
  rw [← hanalyzer] at ha
  have hassessment := assessment_of_ok hsecondary ha
  refine ⟨⟨?_, ?_⟩, ?_⟩
  · rintro ⟨r, hr⟩
    obtain ⟨hsize, htables, contentHash, hdigest, -⟩ := (e.scanFile_eq_ok_iff file).mp hr
    exact ⟨_, (scanFile_eq_ok_iff _ file).mpr
      ⟨hsize, htables, contentHash, hdigest, none, rfl, rfl⟩⟩
  · rintro ⟨r₀, hr₀⟩
    obtain ⟨hsize, htables, contentHash, hdigest, -⟩ := (scanFile_eq_ok_iff _ file).mp hr₀
    exact ⟨_, (e.scanFile_eq_ok_iff file).mpr
      ⟨hsize, htables, contentHash, hdigest, some a, hassessment, rfl⟩⟩
  · intro r hr
    obtain ⟨-, -, contentHash, -, assessment, hassessment', rfl⟩ :=
      (e.scanFile_eq_ok_iff file).mp hr
    obtain rfl := Except.ok.inj (hassessment.symm.trans hassessment')
    rw [hanalyzer] at ha
    obtain ⟨answer, hread, hreason⟩ := MalwareAnalyzer.secondaryError_of_analyze ha
    rw [errors_fileReport, hreason]
    rcases Scorer.reasonOf_read hread with ⟨hanswers, hnone⟩ | ⟨hfails, c, message, hsome⟩
    · simp [hanswers, hnone]
    · simp [hfails, hsome]

/-- **An analysis of a file that breaks down leaves no trace in the report**: the scan ends as one
that was to assess nothing. -/
theorem outcome_scanFile_of_breakdown {file : FileInput} {cause : Failure}
    (hcause : cause.isRecoverable = true)
    (hbreakdown : (e.assessFile file.content file.name).outcome = .error cause) :
    (e.scanFile file).outcome = (scanFile { e with usesSecondary := false } file).outcome := by
  simp only [scanFile_outcome, assessment_of_breakdown hcause hbreakdown]
  rfl

/-- Such a scan has no errors to report. -/
theorem errors_of_off (hoff : e.usesSecondary = false) {file : FileInput} {r : Report}
    (hr : (e.scanFile file).outcome = .ok r) : r.errors = [] := by
  obtain ⟨-, -, contentHash, -, assessment, hassessment, rfl⟩ := (e.scanFile_eq_ok_iff file).mp hr
  obtain rfl := Except.ok.inj ((assessment_of_off hoff file).symm.trans hassessment)
  rfl

/-! ## 3. Code -/

theorem errors_qualityOf (hsecondary : e.usesSecondary = true) (code : Text) :
    (e.qualityOf code).2 = [] ↔ ∃ q, (e.assessCode code).outcome = .ok q := by
  unfold qualityOf
  rw [if_pos hsecondary]
  cases (e.assessCode code).outcome <;> simp

/-- An analysis of code costs no report, and the errors of the report tell whether it has
succeeded. -/
theorem scanCode_recordsErrors (hsecondary : e.usesSecondary = true) (code : Text)
    (sampler : Sampler) :
    ((∃ r, (e.scanCode code sampler).1.outcome = .ok r) ↔
        ∃ r₀, (scanCode { e with usesSecondary := false } code sampler).1.outcome = .ok r₀) ∧
      ∀ r, (e.scanCode code sampler).1.outcome = .ok r →
        (r.errors = [] ↔ ∃ q, (e.assessCode code).outcome = .ok q) := by
  refine ⟨⟨?_, ?_⟩, ?_⟩
  · rintro ⟨r, hr⟩
    obtain ⟨hsize, hvulnerabilities, contentHash, hdigest, hobfuscation, performance, hp, -⟩ :=
      (e.scanCode_eq_ok_iff code sampler).mp hr
    exact ⟨_, (scanCode_eq_ok_iff _ code sampler).mpr
      ⟨hsize, hvulnerabilities, contentHash, hdigest, hobfuscation, performance, hp, rfl⟩⟩
  · rintro ⟨r₀, hr₀⟩
    obtain ⟨hsize, hvulnerabilities, contentHash, hdigest, hobfuscation, performance, hp, -⟩ :=
      (scanCode_eq_ok_iff _ code sampler).mp hr₀
    exact ⟨_, (e.scanCode_eq_ok_iff code sampler).mpr
      ⟨hsize, hvulnerabilities, contentHash, hdigest, hobfuscation, performance, hp, rfl⟩⟩
  · intro r hr
    obtain ⟨-, -, contentHash, -, -, performance, -, rfl⟩ :=
      (e.scanCode_eq_ok_iff code sampler).mp hr
    exact e.errors_qualityOf hsecondary code

/-! ## 4. Both pipelines -/

/-- **A report tells of a lost assessment**, and only of one, as long as the analysis of a file does
not break down.  Neither a scorer that fails nor an analysis of code that breaks down takes a report
away; the errors of the report on a file are empty exactly if the scorer has answered in time, those
of the report on code exactly if the analysis has succeeded.  An analysis of a file that breaks down
leaves the report without an assessment, and without errors. -/
theorem scan_recordsErrors (m : MalwareAnalyzer) (hanalyzer : e.assessFile = m.analyze)
    (hsecondary : e.usesSecondary = true) (file : FileInput) (code : Text) (sampler : Sampler) :
    (∀ a, (m.analyze file.content file.name).outcome = .ok a →
      ((∃ r, (e.scanFile file).outcome = .ok r) ↔
          ∃ r₀, (scanFile { e with usesSecondary := false } file).outcome = .ok r₀) ∧
        ∀ r, (e.scanFile file).outcome = .ok r →
          (r.errors = [] ↔ m.scorer.Answers m.timeout file.content)) ∧
    (∀ cause, (m.analyze file.content file.name).outcome = .error cause →
      cause.isRecoverable = true →
        (e.scanFile file).outcome = (scanFile { e with usesSecondary := false } file).outcome ∧
          ∀ r, (e.scanFile file).outcome = .ok r → r.errors = []) ∧
    ((∃ r, (e.scanCode code sampler).1.outcome = .ok r) ↔
        ∃ r₀, (scanCode { e with usesSecondary := false } code sampler).1.outcome = .ok r₀) ∧
      ∀ r, (e.scanCode code sampler).1.outcome = .ok r →
        (r.errors = [] ↔ ∃ q, (e.assessCode code).outcome = .ok q) := by
  refine ⟨fun _ ha => e.scanFile_recordsErrors hanalyzer hsecondary ha, ?_,
    e.scanCode_recordsErrors hsecondary code sampler⟩
  intro cause hbreakdown hcause
  rw [← hanalyzer] at hbreakdown
  have houtcome := e.outcome_scanFile_of_breakdown hcause hbreakdown
  exact ⟨houtcome, fun r hr => errors_of_off _ rfl (houtcome ▸ hr)⟩

/-- A scorer that is down is told of; an analysis of code that succeeds has nothing to tell. -/
theorem scan_recordsErrors_of_down :
    (∃ r, ((ofSettings {} Catalog.default (fun _ => .failed "down") (some true) default).scanFile
        ⟨"a.exe", "a virus", none, none⟩).outcome = .ok r ∧ r.errors ≠ []) ∧
      ∃ r, ((ofSettings {} Catalog.default (fun _ => .failed "down") (some true) default).scanCode
        "import os" (.fixed 50)).1.outcome = .ok r ∧ r.errors = [] := by
  have hcatalog := Catalog.noNegativeWeight_default
  have hread : Scorer.read 5 (fun _ => .failed "down") "a virus" =
      .ok (.error "secondary scorer failed: down") := by decide +kernel
  have ha : ((({} : Settings).malwareAnalyzer Catalog.default
      (fun _ => .failed "down")).analyze "a virus" "a.exe").outcome = .ok _ :=
    MalwareAnalyzer.analyze_eq (hcatalog .advancedMalware) (hcatalog .anomalies) hread
      ScorerOutput.inUnit_zero
  have hq : ((ofSettings {} Catalog.default (fun _ => .failed "down") (some true)
      default).assessCode "import os").outcome = .ok _ :=
    Quality.analyze_eq (hcatalog .advancedVulnerabilities) "import os"
  obtain ⟨hfile, -, -, hcode⟩ := scan_recordsErrors
    (ofSettings {} Catalog.default (fun _ => .failed "down") (some true) default)
    (({} : Settings).malwareAnalyzer Catalog.default fun _ => .failed "down") rfl rfl
    ⟨"a.exe", "a virus", none, none⟩ "import os" (.fixed 50)
  obtain ⟨r, hr, -⟩ := exists_scanFile_eq_ok {} (fun _ => .failed "down") (some true) default
    ⟨"a.exe", "a virus", none, none⟩ hcatalog (by constructor <;> simp) (by constructor <;> simp)
    (by decide +kernel) (by decide +kernel)
  obtain ⟨s, hs, -⟩ := exists_scanCode_eq_ok {} (fun _ => .failed "down") (some true) default
    "import os" (.fixed 50) (by decide +kernel) (by decide +kernel)
  refine ⟨⟨r, hr, ?_⟩, s, hs, (hcode s hs).mpr ⟨_, hq⟩⟩
  rw [ne_eq, (hfile _ ha).2 r hr]
  rintro ⟨-, ⟨value, o, hvalue, -⟩ | ⟨o, hmade⟩⟩
  · cases hvalue
  · cases hmade

/-! ## 5. An analysis of a file that breaks down -/

/-- A sign of concealment with a negative weight, which no finding may have. -/
def unsoundCatalog : Catalog where
  anomalies := [{ ruleId := "T-1", pattern := .word "foo", label := "foo", weight := -1 }]

/-- The analysis of a file with a sign that no finding may have breaks down. -/
theorem outcome_analyze_of_refused {m : MalwareAnalyzer} {content name : Text} {cause : Failure}
    (hattack : NoNegativeWeight m.catalog.advancedMalware)
    (hconcealment : (Matching.ofContent content m.catalog.anomalies).complete = .error cause) :
    (m.analyze content name).outcome = .error cause := by
  simp only [MalwareAnalyzer.analyze, Matching.outcome_traced_bind,
    Matching.complete_ofContent hattack, hconcealment, Except.bind]

/-- A file that is to be assessed, whose analysis breaks down, and whose report has no errors. -/
theorem errors_of_negativeWeight :
    ((ofSettings {} unsoundCatalog Scorer.default (some true) default).assessFile
        "foo bar baz eval( bitcoin" "x.foo").outcome = .error (.refusedWeight (-1)) ∧
      ∃ r, ((ofSettings {} unsoundCatalog Scorer.default (some true) default).scanFile
        ⟨"x.foo", "foo bar baz eval( bitcoin", none, none⟩).outcome = .ok r ∧ r.errors = [] := by
  have hrefused : (Matching.ofContent "foo bar baz eval( bitcoin"
      unsoundCatalog.anomalies).refused.map (·.weight) = some (-1) := by
    rw [Matching.ofContent, Matching.inContent?_eq_scanContent?]
    decide +kernel
  have hcomplete : (Matching.ofContent "foo bar baz eval( bitcoin"
      unsoundCatalog.anomalies).complete = .error (.refusedWeight (-1)) := by
    obtain ⟨f, hf, hweight⟩ := Option.map_eq_some_iff.mp hrefused
    rw [Matching.complete, hf, ← hweight]
  have hbreakdown : ((ofSettings {} unsoundCatalog Scorer.default (some true) default).assessFile
      "foo bar baz eval( bitcoin" "x.foo").outcome = .error (.refusedWeight (-1)) :=
    outcome_analyze_of_refused (Catalog.noNegativeWeight_default .advancedMalware) hcomplete
  have htables : (ofSettings {} unsoundCatalog Scorer.default (some true) default).fileTables
      "foo bar baz eval( bitcoin" = .ok () :=
    fileTables_eq_of_tables (Catalog.noNegativeWeight_default .malware)
      (Catalog.noNegativeWeight_default .suspicious) (Catalog.noNegativeWeight_default .obfuscation)
  obtain ⟨contentHash, hdigest⟩ : ∃ contentHash,
      (ofSettings {} unsoundCatalog Scorer.default (some true) default).digest
        "foo bar baz eval( bitcoin" = .ok contentHash :=
    digest_of_no_surrogate _ (by decide +kernel)
  exact ⟨hbreakdown, _, scanFile_eq_ok htables (assessment_of_breakdown rfl hbreakdown)
    (by decide +kernel) hdigest, rfl⟩

end Engine
end ThreatScan
