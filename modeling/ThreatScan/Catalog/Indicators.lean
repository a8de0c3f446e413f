/-
# Indicators

Signs of obfuscation, which add up to a score by weight, and hints at what a file does, of
which only the presence counts.
-/
import ThreatScan.Catalog.Malware

namespace ThreatScan
namespace Shipped

open Pattern

/-- A sign of obfuscation. -/
def indicator (ruleId label : Text) (weight : Binary64) (pattern : Pattern) : Signature :=
  { ruleId, pattern, label, weight }

/-- The signs of obfuscation. -/
def obfuscation : List Signature := [
  indicator "TL-OBF-001" "Hex escape sequences" 2 hexEscape,
  indicator "TL-OBF-002" "Encoding function mentions" 1 (words ["base64", "atob", "btoa"]),
  indicator "TL-OBF-003" "Dynamic evaluation" 3 (words ["eval(", "Function("]),
  indicator "TL-OBF-004" "Long encoded strings" 1 (many .alphanumericAnyCase 50 false)]

/-- The hints at behavior. -/
def behaviors : List Signature := [
  indicator "TL-BEH-001" "Network communication detected" 1
    (words ["network", "http", "socket", "connect"]),
  indicator "TL-BEH-002" "File system operations detected" 1
    (words ["file", "read", "write", "delete"]),
  indicator "TL-BEH-003" "Registry modifications detected" 1
    (words ["registry", "regkey", "regedit"]),
  indicator "TL-BEH-004" "Process manipulation detected" 1
    (words ["process", "thread", "inject"]),
  indicator "TL-BEH-005" "Cryptographic operations detected" 1
    (words ["encrypt", "decrypt", "crypto"])]

end Shipped
end ThreatScan
