/-
# The file pipeline as a chain of steps

`scanFile` runs in two parts that wait for each other and say what they do.  What comes of it is
simpler: the size and the tables are looked at, the digest and the assessment are waited for, and
then there is a report that is a function of the engine, the file, the digest and the assessment
(`scanFile_outcome`).  `scanFile_eq_ok_iff` reads the same chain backwards, from a report to the
steps behind it.

The two checks between the steps never fail: the entropy is a number and not negative, and the
counts are numbers of signatures.
-/
import ThreatScan.Engine.Setup
import ThreatScan.Proofs.Scan.Entropy
import ThreatScan.Proofs.Scan.Matching

namespace ThreatScan

namespace Matching

/-- What follows a matching works with that very matching. -/
theorem outcome_traced_bind {α : Type} (m : Matching) (f : Matching → Traced α) :
    (m.traced >>= f).outcome = m.complete.bind fun _ => (f m).outcome := by
  rw [Traced.outcome_bind]
  show m.complete.bind _ = _
  cases h : m.complete with
  | error cause => rfl
  | ok n =>
    obtain rfl := (complete_eq_ok_iff.mp h).2
    rfl

end Matching

namespace Engine

variable (e : Engine) (file : FileInput)

/-! ## 1. The steps -/

/-- The tables of a file scan are matched to their ends. -/
def fileTables (content : Text) : Except Failure Unit :=
  (Matching.ofContent content e.catalog.malware).complete.bind fun _ =>
    (Matching.ofContent content e.catalog.suspicious).complete.bind fun _ =>
      (Matching.ofContent content e.catalog.obfuscation).complete.bind fun _ => .ok ()

/-- The indicators of a content. -/
def metricsOf (content : Text) : AdvancedMetrics :=
  ⟨(Entropy.ofText content).roundPlaces 1,
    Indication.obfuscationLevel (Matching.ofContent content e.catalog.obfuscation).score,
    Indication.present content e.catalog.behaviors⟩

/-- What the tables say about a file. -/
def draftOf : FileDraft :=
  let malware := Matching.ofContent file.content e.catalog.malware
  let suspicious := Matching.ofContent file.content e.catalog.suspicious
  let extension := Matching.ofExtension? file.name e.catalog.suspiciousExtensions
  { file
    findings := fileFindings malware suspicious extension
    threatCount := malware.signatureCount + extension.toList.length
    warningCount := suspicious.signatureCount
    metrics := e.metricsOf file.content }

/-- The report on a file with this digest and this assessment. -/
def fileReport (contentHash : Text) (assessment : Option MalwareAssessment) : Report :=
  (fileFacts (e.draftOf file) contentHash assessment).toReport e.clock

/-! ## 2. The checks that cannot fail -/

theorem metricsViolations_metricsOf (content : Text) :
    metricsViolations (e.metricsOf content) = [] := by
  have h : Binary64.Nonneg (e.metricsOf content).entropyScore :=
    (Entropy.nonneg_ofText content).roundPlaces 1
  simp [metricsViolations, Binary64.natural_brokenByNumber.mpr h]

theorem threatCount_nonneg (contentHash : Text) (assessment : Option MalwareAssessment) :
    0 ≤ (e.fileReport file contentHash assessment).threatCount := by
  cases assessment with
  | none =>
    simp only [fileReport, FileFacts.toReport, fileFacts, draftOf]
    omega
  | some a =>
    simp only [fileReport, FileFacts.toReport, fileFacts, draftOf, Verdict.maliciousBonus]
    split <;> omega

theorem warningCount_nonneg (contentHash : Text) (assessment : Option MalwareAssessment) :
    0 ≤ (e.fileReport file contentHash assessment).warningCount := by
  simp [fileReport, FileFacts.toReport, fileFacts, draftOf]

theorem report_fileFacts (contentHash : Text) (assessment : Option MalwareAssessment) :
    (fileFacts (e.draftOf file) contentHash assessment).report e.clock =
      .ok (e.fileReport file contentHash assessment) := by
  have h : (fileFacts (e.draftOf file) contentHash assessment).violations = [] := by
    have hthreats := Decode.Bounds.natural_brokenBy.mpr
      (e.threatCount_nonneg file contentHash assessment)
    have hwarnings := Decode.Bounds.natural_brokenBy.mpr
      (e.warningCount_nonneg file contentHash assessment)
    simp only [fileReport, FileFacts.toReport] at hthreats hwarnings
    simp [FileFacts.violations, hthreats, hwarnings]
  simp only [FileFacts.report, h, fileReport]

/-! ## 3. The chain -/

theorem outcome_metrics (content : Text) :
    (metrics e.catalog content).outcome =
      (Matching.ofContent content e.catalog.obfuscation).complete.bind fun _ =>
        .ok (e.metricsOf content) := by
  simp only [metrics, Matching.outcome_traced_bind]
  have h := e.metricsViolations_metricsOf content
  simp only [metricsOf] at h
  simp only [h]
  rfl

theorem outcome_beginFile :
    (e.beginFile file).outcome =
      (e.checkSize file.name file.content).bind fun _ =>
        (e.fileTables file.content).bind fun _ => .ok (e.draftOf file) := by
  unfold beginFile fileTables
  simp only [Traced.outcome_bind, outcome_metrics]
  show (e.checkSize file.name file.content).bind _ = _
  congr 1
  funext _
  cases hmalware : (Matching.ofContent file.content e.catalog.malware).refused <;>
  cases hsuspicious : (Matching.ofContent file.content e.catalog.suspicious).refused <;>
  cases hobfuscation : (Matching.ofContent file.content e.catalog.obfuscation).refused <;>
    simp [Matching.traced, Matching.complete, hmalware, hsuspicious, hobfuscation, Except.bind,
      draftOf]

section Both

variable {α β : Type} {first : Except Failure α} {second : Except Failure β}

/-- Two results are there exactly if each of them is. -/
theorem both_eq_ok_iff {a : α} {b : β} :
    both first second = .ok (a, b) ↔ first = .ok a ∧ second = .ok b := by
  cases second with
  | ok b' => cases first <;> simp [both, isPending, Except.bind, Except.map]
  | error cause =>
    have hnone : both first (.error cause : Except Failure β) ≠ .ok (a, b) := by
      unfold both
      split
      · simp
      · cases first <;> simp [Except.bind, Except.map]
    simp [hnone]

/-- As long as the second result comes at all, the first failure counts. -/
theorem both_of_not_pending (h : isPending second = false) :
    both first second = first.bind fun a => second.map fun b => (a, b) := by
  rw [both, h]
  rfl

theorem both_of_pending (h : isPending second = true) : both first second = .error .unending := by
  rw [both, h]
  rfl

end Both

/-- **A file scan is a chain of steps**, the last two of which are waited for together. -/
theorem scanFile_outcome :
    (e.scanFile file).outcome =
      (e.checkSize file.name file.content).bind fun _ =>
        (e.fileTables file.content).bind fun _ =>
          (both (e.digest file.content) (e.assessment file).outcome).bind fun results =>
            .ok (e.fileReport file results.1 results.2) := by
  rw [scanFile, Traced.outcome_bind, outcome_beginFile]
  cases e.checkSize file.name file.content with
  | error cause => rfl
  | ok _ =>
    cases e.fileTables file.content with
    | error cause => rfl
    | ok _ =>
      simp only [Except.bind, finishFile, Traced.outcome_bind, Traced.ofOutcome,
        report_fileFacts, Traced.outcome_say, Traced.outcome_pure]
      rfl

/-- A report on a file tells which digest and which assessment it was made from. -/
theorem scanFile_eq_ok_iff {r : Report} :
    (e.scanFile file).outcome = .ok r ↔
      e.checkSize file.name file.content = .ok () ∧ e.fileTables file.content = .ok () ∧
        ∃ contentHash, e.digest file.content = .ok contentHash ∧
          ∃ assessment, (e.assessment file).outcome = .ok assessment ∧
            r = e.fileReport file contentHash assessment := by
  simp [scanFile_outcome, Except.bind_eq_ok_iff, both_eq_ok_iff, eq_comm (b := r),
    Unique.exists_iff, and_assoc]

end Engine
end ThreatScan
