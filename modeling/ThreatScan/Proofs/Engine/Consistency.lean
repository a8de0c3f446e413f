/-
# A report on code agrees with itself

A scan of code counts its findings twice, once to pick the score and once to fill the report, and
it has two verdicts: that of the counts, from which the score is drawn, and that of the quality
assessment, which decides the level if there is one.  `scanCode_consistent` says that a reader who
recomputes all this from the findings and the assessment in the report gets the same numbers and
the same levels.  It holds of every engine, with any tables and any analyzer, one that fails
included.
-/
import ThreatScan.Proofs.Engine.Outcome
import ThreatScan.Proofs.Scan.Verdict
import ThreatScan.Proofs.Text.Basic

namespace ThreatScan

/-- Every finding is counted under its severity, and once. -/
theorem Finding.sum_countBySeverity (fs : List Finding) :
    ((countBySeverity fs).map (·.2)).sum = fs.length := by
  have h := Text.sum_count_firstOfEach (fs.map (·.severity))
  rw [List.length_map] at h
  rw [← h, countBySeverity, List.map_map]
  congr 1
  refine List.map_congr_left ?_
  intro l _
  rw [List.count, List.countP_map]
  rfl

/-- The parts of a report on code agree with each other. -/
structure CodeReport.Consistent (r : CodeReport) : Prop where
  threatCount : r.threatCount = (r.findings.countP fun f => f.severity = .high : ℕ)
  warningCount : r.warningCount = (r.findings.countP fun f => f.severity = .medium : ℕ)
  securityScore :
    (Verdict.ofCode r.threatCount r.warningCount).scoreBand.1 ≤ r.securityScore ∧
      r.securityScore ≤ (Verdict.ofCode r.threatCount r.warningCount).scoreBand.2
  securityLevel : r.securityLevel =
    match r.codeQuality with
    | some q => Verdict.ofQuality q
    | none => Verdict.ofCode r.threatCount r.warningCount
  riskLevel : Level.Mirrored r.securityLevel r.riskLevel
  countBySeverity : ((Finding.countBySeverity r.findings).map (·.2)).sum = r.findings.length

namespace Engine

theorem consistent_codeReport (e : Engine) (code : Text) (sampler : Sampler) (contentHash : Text)
    (performance : PerformanceImpact) :
    (e.codeReport code sampler contentHash performance).Consistent where
  threatCount := rfl
  warningCount := rfl
  -- The count that the sampler works with is that of the report.
  securityScore := sampler.score_mem (basicLevel (e.vulnerabilitiesOf code))
  securityLevel := rfl
  riskLevel := Level.mirrored_risk _
  countBySeverity := Finding.sum_countBySeverity _

/-- **Every report on code agrees with itself**, whatever the code, the tables and the state of the
sampler are, and whether there is a quality assessment or not. -/
theorem scanCode_consistent (e : Engine) (code : Text) (sampler : Sampler) {r : CodeReport}
    (h : (e.scanCode code sampler).1.outcome = .ok r) : r.Consistent := by
  obtain ⟨-, -, contentHash, -, -, performance, -, rfl⟩ :=
    (e.scanCode_eq_ok_iff code sampler).mp h
  exact e.consistent_codeReport code sampler contentHash performance

/-- A report with a quality assessment, and a score from the generator. -/
theorem scanCode_consistent_of_seed :
    ∃ r, ((ofSettings {} Catalog.default (fun _ => .late) none default).scanCode
        "x = eval(input)" (Sampler.ofSeed 7)).1.outcome = .ok r ∧
      r.codeQuality.isSome = true ∧ r.Consistent := by
  obtain ⟨r, hr, hquality⟩ := exists_scanCode_eq_ok {} (fun _ => .late) none default
    "x = eval(input)" (Sampler.ofSeed 7) (by decide +kernel) (by decide +kernel)
  exact ⟨r, hr, hquality, scanCode_consistent _ _ _ hr⟩

end Engine
end ThreatScan
