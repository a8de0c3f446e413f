/-
# The code pipeline as a chain of steps

A scan of code can fail in its size, in one of three tables, and in its digest; the report is
then a function of the engine, the code, the sampler, the digest and the performance
(`scanCode_outcome`).  The quality assessment is no step of the chain: whatever becomes of it is
part of the report.  The last check of a report, on its score, cannot fail, because a sampler
keeps to the band.
-/
import ThreatScan.Proofs.Engine.File
import ThreatScan.Proofs.Scan.Sampler

namespace ThreatScan
namespace Engine

variable (e : Engine) (code : Text) (sampler : Sampler)

/-! ## 1. The steps -/

/-- The quality assessment, if there is one, and the errors on the way. -/
def qualityOf : Option CodeQuality × List Text :=
  if e.usesSecondary then
    match (e.assessCode code).outcome with
    | .ok q => (some q, [])
    | .error cause => (none, [e.qualityFailure cause])
  else (none, [])

/-- The findings in code. -/
def vulnerabilitiesOf : Matching := Matching.ofLines code e.catalog.vulnerabilities

/-- What the tables, the sampler and the quality assessment say about code. -/
def codeDraftOf : CodeDraft where
  code
  findings := e.vulnerabilitiesOf code
  securityScore := (sampler.score (basicLevel (e.vulnerabilitiesOf code))).1
  quality := (e.qualityOf code).1
  errors := (e.qualityOf code).2

/-- The report on code with this digest and this performance. -/
def codeReport (contentHash : Text) (performance : PerformanceImpact) : CodeReport :=
  (e.codeFacts (e.codeDraftOf code sampler) contentHash
    (Matching.ofContent code e.catalog.obfuscation) performance).toReport e.clock

theorem outcome_quality : (e.quality code).outcome = .ok (e.qualityOf code) := by
  unfold quality qualityOf
  cases e.usesSecondary with
  | false => rfl
  | true =>
    cases h : (e.assessCode code).outcome <;> simp [h]

theorem report_codeFacts (contentHash : Text) (obfuscation : Matching)
    (performance : PerformanceImpact) :
    (e.codeFacts (e.codeDraftOf code sampler) contentHash obfuscation performance).report e.clock =
      .ok ((e.codeFacts (e.codeDraftOf code sampler) contentHash obfuscation
        performance).toReport e.clock) := by
  have h := Decode.Bounds.percent_brokenBy.mpr
    (sampler.score_percent (basicLevel (e.vulnerabilitiesOf code)))
  simp only [CodeFacts.report, codeFacts, codeDraftOf, h]

/-! ## 2. The chain -/

theorem outcome_matchCode :
    (e.matchCode code).outcome =
      (e.checkSize "code" code).bind fun _ => (e.vulnerabilitiesOf code).complete := by
  simp only [matchCode, Traced.outcome_bind, Traced.outcome_say]
  rfl

theorem outcome_beginCode :
    (e.beginCode code sampler).1.outcome =
      (e.checkSize "code" code).bind fun _ =>
        (e.vulnerabilitiesOf code).complete.bind fun _ => .ok (e.codeDraftOf code sampler) := by
  unfold beginCode
  simp only [outcome_matchCode]
  cases e.checkSize "code" code with
  | error cause => rfl
  | ok _ =>
    cases h : (e.vulnerabilitiesOf code).complete with
    | error cause => rfl
    | ok m =>
      obtain rfl := (Matching.complete_eq_ok_iff.mp h).2
      simp only [Except.bind, Traced.outcome_bind, Traced.outcome_say, outcome_quality]
      rfl

/-- **A code scan is a chain of five steps.** -/
theorem scanCode_outcome :
    (e.scanCode code sampler).1.outcome =
      (e.checkSize "code" code).bind fun _ =>
        (e.vulnerabilitiesOf code).complete.bind fun _ =>
          (e.digest code).bind fun contentHash =>
            (Matching.ofContent code e.catalog.obfuscation).complete.bind fun _ =>
              (Indication.performance code e.catalog.performance).bind fun performance =>
                .ok (e.codeReport code sampler contentHash performance) := by
  show ((e.beginCode code sampler).1 >>= e.finishCode).outcome = _
  rw [Traced.outcome_bind, outcome_beginCode]
  cases e.checkSize "code" code with
  | error cause => rfl
  | ok _ =>
    cases (e.vulnerabilitiesOf code).complete with
    | error cause => rfl
    | ok _ =>
      simp only [Except.bind, finishCode, Traced.outcome_bind, Traced.ofOutcome,
        report_codeFacts, Traced.outcome_say, Traced.outcome_pure]
      -- The matching of the obfuscation table is the only value that the chain does not hand on.
      cases hobfuscation : (Matching.ofContent code e.catalog.obfuscation).refused <;>
        simp [codeDraftOf, Matching.traced, Matching.complete, hobfuscation, codeReport]

/-- A report on code tells which digest and which performance it was made from. -/
theorem scanCode_eq_ok_iff {r : CodeReport} :
    (e.scanCode code sampler).1.outcome = .ok r ↔
      e.checkSize "code" code = .ok () ∧ (e.vulnerabilitiesOf code).refused = none ∧
        ∃ contentHash, e.digest code = .ok contentHash ∧
          (Matching.ofContent code e.catalog.obfuscation).refused = none ∧
          ∃ performance, Indication.performance code e.catalog.performance = .ok performance ∧
            r = e.codeReport code sampler contentHash performance := by
  simp [scanCode_outcome, Except.bind_eq_ok_iff, Matching.complete_eq_ok_iff, eq_comm (b := r),
    Unique.exists_iff]

end Engine
end ThreatScan
