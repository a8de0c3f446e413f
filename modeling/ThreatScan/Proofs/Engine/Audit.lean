/-
# Auditing the level of a file

A scan classifies a file by the number of its threats, escalates the level by that number and the
bonus, and reports the number with the bonus.  A reader of the report sees the last number only,
and that is enough: `scanFile_auditable` gives the level as the worst of what the report itself
gives reasons for.
-/
import ThreatScan.Proofs.Engine.Outcome
import ThreatScan.Proofs.Scan.Verdict

namespace ThreatScan

/-- The levels that a report on a file gives reasons for: that of its counts and those that its
assessment calls for. -/
def Report.grounds (r : Report) : List Level :=
  Verdict.ofFile r.threatCount r.warningCount ::
    (r.malwareAssessment.map Verdict.grounds).getD []

namespace Engine

/-- The count in a report has the bonus already, and its level is the worst of its grounds. -/
theorem worst?_grounds_fileReport (e : Engine) (file : FileInput) (contentHash : Text)
    (assessment : Option MalwareAssessment) :
    Level.worst? (e.fileReport file contentHash assessment).grounds =
      some (e.fileReport file contentHash assessment).securityLevel := by
  cases assessment with
  | none => rfl
  | some a =>
    have h := Verdict.worst?_grounds (e.draftOf file).threatCount (e.draftOf file).warningCount a
    simpa only [Report.grounds, fileReport, FileFacts.toReport, fileFacts, Option.map_some,
      Option.getD_some] using h

/-- **The levels of a report on a file follow from the rest of it.**  The security level is the
worst that the counts and the assessment call for, hence no better than that of the counts alone,
and the risk level mirrors it. -/
theorem scanFile_auditable (e : Engine) (file : FileInput) {r : Report}
    (h : (e.scanFile file).outcome = .ok r) :
    Level.worst? r.grounds = some r.securityLevel ∧ Level.Mirrored r.securityLevel r.riskLevel ∧
      r.securityLevel.securityRank ≤
        (Verdict.ofFile r.threatCount r.warningCount).securityRank := by
  obtain ⟨-, -, contentHash, -, assessment, -, rfl⟩ := (e.scanFile_eq_ok_iff file).mp h
  have hworst := e.worst?_grounds_fileReport file contentHash assessment
  refine ⟨hworst, Level.mirrored_risk _, ?_⟩
  rw [← Option.some.inj hworst]
  exact Level.securityRank_foldl_worse_le _ _

/-- The report on a program that a scorer was too slow for, audited. -/
theorem scanFile_auditable_of_late :
    ∃ r, ((ofSettings {} Catalog.default (fun _ => .late) none default).scanFile
        ⟨"a.exe", "a virus", none, none⟩).outcome = .ok r ∧
      r.malwareAssessment.isSome = true ∧ Level.worst? r.grounds = some r.securityLevel ∧
        Level.Mirrored r.securityLevel r.riskLevel := by
  obtain ⟨r, hr, hassessment⟩ := exists_scanFile_eq_ok {} (fun _ => .late) none default
    ⟨"a.exe", "a virus", none, none⟩ Catalog.noNegativeWeight_default (by constructor <;> simp)
    (by constructor <;> simp) (by decide +kernel) (by decide +kernel)
  obtain ⟨hworst, hmirrored, -⟩ := scanFile_auditable _ _ hr
  exact ⟨r, hr, hassessment, hworst, hmirrored⟩

end Engine
end ThreatScan
