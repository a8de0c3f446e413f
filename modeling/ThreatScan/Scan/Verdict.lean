/-
# Verdicts

The security level of an input.  The counts of threats and warnings give a basic level; for a
file a malware assessment can only make it worse, and for code the quality assessment, if there
is one, decides alone.
-/
import ThreatScan.Level
import ThreatScan.Number.Binary64

namespace ThreatScan

/-! ## 1. Assessments -/

/-- Signs of concealment. -/
structure AnomalyDetection where
  isAnomaly : Bool
  anomalyScore : Binary64
  suspiciousPatterns : List Text
deriving DecidableEq, Repr, Inhabited

/-- How malicious a file looks. -/
structure MalwareAssessment where
  isMalicious : Bool
  confidence : Binary64
  patternScore : Binary64
  secondaryScore : Binary64
  combinedScore : Binary64
  riskScore : Int
  securityScore : Int
  threats : List Text
  anomalyDetection : AnomalyDetection
  secondaryError : Option Text
deriving DecidableEq, Repr, Inhabited

/-- How good a piece of code is. -/
structure CodeQuality where
  securityScore : Int
  maintainabilityScore : Int
  complexityScore : Int
  vulnerabilityRisk : Level
  recommendations : List Text
deriving DecidableEq, Repr, Inhabited

namespace Verdict

/-! ## 2. Files -/

/-- The level for a file with these numbers of threats and warnings. -/
def ofFile (threats warnings : Int) : Level :=
  if 3 ≤ threats then .low
  else if 1 ≤ threats ∨ 3 ≤ warnings then .medium
  else .high

/-- What a malicious assessment adds to the number of threats. -/
def maliciousBonus (a : MalwareAssessment) : Int := if a.isMalicious then 2 else 0

/-- An assessment counts as certain above this confidence. -/
def certainty : Binary64 := 0.7

/-- The level that the number of threats and an assessment call for. -/
def ofAssessment (threats : Int) (a : MalwareAssessment) : Level :=
  let combined := threats + maliciousBonus a
  if 3 ≤ combined ∨ (a.isMalicious ∧ Binary64.less certainty a.confidence) then .low
  else if 1 ≤ combined ∨ a.securityScore < 60 then .medium
  else .high

/-- The basic level, made worse if the assessment calls for it. -/
def escalate (basic : Level) (threats : Int) (a : MalwareAssessment) : Level :=
  basic.worse (ofAssessment threats a)

/-! ## 3. Code -/

/-- The level for code with these numbers of threats and warnings. -/
def ofCode (threats warnings : Int) : Level :=
  if 2 ≤ threats then .low
  else if 1 ≤ threats ∨ 2 ≤ warnings then .medium
  else .high

/-- The level that a quality assessment calls for. -/
def ofQuality (q : CodeQuality) : Level :=
  if q.vulnerabilityRisk = .high ∨ q.securityScore < 50 then .low
  else if q.vulnerabilityRisk = .medium ∨ q.securityScore < 70 then .medium
  else .high

end Verdict
end ThreatScan
