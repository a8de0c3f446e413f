/-
# Version
-/
import ThreatScan.Text.Basic

namespace ThreatScan

/-- The version of the program. -/
def programVersion : Text := "0.1.0"

end ThreatScan
