/-
# Levels

A level grades the severity of a finding, the security of a scanned input, and its risk.  For
security HIGH is good; risk runs the other way, so that LOW security is HIGH risk.
-/
import ThreatScan.Text.Basic

namespace ThreatScan

/-- HIGH, MEDIUM or LOW. -/
inductive Level where
  | high
  | medium
  | low
deriving DecidableEq, Repr, Inhabited

namespace Level

/-- The name of a level. -/
def name : Level → Text
  | .high => "HIGH"
  | .medium => "MEDIUM"
  | .low => "LOW"

/-- The level of a name, which is written in capitals. -/
def ofName? (t : Text) : Option Level := [high, medium, low].find? fun l => l.name = t

/-- The risk level that goes with a security level. -/
def risk : Level → Level
  | .high => .low
  | .medium => .medium
  | .low => .high

/-- The place of a security level in the order from bad to good. -/
def securityRank : Level → Nat
  | .low => 0
  | .medium => 1
  | .high => 2

/-- The worse of two security levels. -/
def worse (a b : Level) : Level := if b.securityRank < a.securityRank then b else a

/-- The worst of some security levels, if there are any. -/
def worst? : List Level → Option Level
  | [] => none
  | a :: as => some (as.foldl worse a)

end Level
end ThreatScan
