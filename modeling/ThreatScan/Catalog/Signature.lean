/-
# Signatures

A signature ties a pattern to a label, a weight and a severity.  All shipped signatures ignore
case.
-/
import ThreatScan.Finding
import ThreatScan.Pattern.Occurrence

namespace ThreatScan

/-- A weighted pattern with what a finding says about it. -/
structure Signature where
  ruleId : Text
  pattern : Pattern
  label : Text
  weight : Binary64 := 1
  severity : Level := .medium
  category : Category := .suspicious
  description : Text := []
deriving Repr, Inhabited

namespace Signature

/-- A signature that looks for a text, which is also its label. -/
def ofWord (ruleId word : Text) (severity : Level) (category : Category) : Signature where
  ruleId
  pattern := Pattern.word word
  label := word
  severity
  category

end Signature
end ThreatScan
