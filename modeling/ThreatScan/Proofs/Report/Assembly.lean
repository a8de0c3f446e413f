/-
# What an assessment adds to a report

The parts of a report that grow, grow at their ends: a malicious assessment puts its threats after
those of the findings, and a worse level shows more of the same list of advice.
-/
import ThreatScan.Report.Assembly
import ThreatScan.Proofs.Text.Basic

namespace ThreatScan

/-- The worse the level, the more advice. -/
theorem Advice.fileCapacity_le {l l₀ : Level} (h : l.securityRank ≤ l₀.securityRank) :
    fileCapacity l₀ ≤ fileCapacity l := by
  cases l <;> cases l₀ <;> revert h <;> decide

/-- The advice for a level starts with the advice for any better one. -/
theorem Advice.ofFile_prefix {l l₀ : Level} (h : l.securityRank ≤ l₀.securityRank) :
    ofFile l₀ <+: ofFile l :=
  List.take_prefix_take_left (fileCapacity_le h)

/-- The threats of an assessment come after those of the findings. -/
theorem FileFacts.vulnerabilities_prefix (findings : List Finding)
    (assessment : Option MalwareAssessment) :
    vulnerabilities findings none <+: vulnerabilities findings assessment := by
  refine Text.firstOfEach_prefix ?_
  rw [assessedThreats, List.append_nil]
  exact List.prefix_append _ _

end ThreatScan
