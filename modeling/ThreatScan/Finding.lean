/-
# Findings

A finding says that a signature matched: which one, how often, and where.  The other records
here are the pieces of a report that are made from findings.
-/
import ThreatScan.Level
import ThreatScan.Number.Binary64

namespace ThreatScan

/-- What a finding is about. -/
inductive Category where
  | malware
  | suspicious
  | extension
  | vulnerability
  | anomaly
deriving DecidableEq, Repr, Inhabited

namespace Category

/-- The name of a category. -/
def name : Category → Text
  | .malware => "malware"
  | .suspicious => "suspicious"
  | .extension => "extension"
  | .vulnerability => "vulnerability"
  | .anomaly => "anomaly"

/-- The category of a name. -/
def ofName? (t : Text) : Option Category :=
  [malware, suspicious, extension, vulnerability, anomaly].find? fun c => c.name = t

end Category

/-- One signature that matched.  A finding in code has the number of its line, from 1. -/
structure Finding where
  ruleId : Text
  label : Text
  severity : Level
  category : Category
  weight : Binary64
  matchCount : Int := 1
  lineNumber : Option Int := none
  snippet : Text := []
deriving DecidableEq, Repr, Inhabited

/-- A vulnerability as a code report presents it. -/
structure VulnerabilityDetail where
  severity : Level
  title : Text
  description : Text
  line : Int
deriving DecidableEq, Repr, Inhabited

/-- Something to do about the findings. -/
structure Suggestion where
  priority : Level
  title : Text
  description : Text
deriving DecidableEq, Repr, Inhabited

namespace Finding

/-- The number of findings of each severity, in the order of first appearance. -/
def countBySeverity (fs : List Finding) : List (Level × Nat) :=
  (Text.firstOfEach (fs.map (·.severity))).map fun l => (l, fs.countP fun f => f.severity = l)

end Finding
end ThreatScan
