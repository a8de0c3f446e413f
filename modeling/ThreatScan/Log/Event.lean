/-
# Log events

What a scan has to say while it runs, in order: a level, the part of the program that speaks,
and a message.
-/
import ThreatScan.Text.Basic

namespace ThreatScan

/-- How important an event is. -/
inductive Importance where
  | debug
  | info
  | warning
  | error
  | critical
deriving DecidableEq, Repr, Inhabited

namespace Importance

/-- The number of a level; a higher one is more important. -/
def rank : Importance → Nat
  | .debug => 10
  | .info => 20
  | .warning => 30
  | .error => 40
  | .critical => 50

/-- The name of a level. -/
def name : Importance → Text
  | .debug => "DEBUG"
  | .info => "INFO"
  | .warning => "WARNING"
  | .error => "ERROR"
  | .critical => "CRITICAL"

end Importance

/-- One message. -/
structure Event where
  importance : Importance
  speaker : Text
  message : Text
deriving DecidableEq, Repr

end ThreatScan
