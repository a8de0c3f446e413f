/-
# Advice

What a report advises.  The advice comes from two fixed lists in the order of importance, and
the security level says how much of a list is shown: the worse the level, the more.
-/
import ThreatScan.Finding

namespace ThreatScan
namespace Advice

/-! ## 1. Files -/

/-- The advice for files, the most important first. -/
def forFiles : List Text := [
  "Run in isolated sandbox environment before execution",
  "Verify digital signature from trusted publisher",
  "Check file against updated antivirus databases",
  "Monitor network traffic during execution",
  "Implement application whitelisting policies",
  "Use static analysis tools for deeper inspection",
  "Quarantine file until thorough analysis is complete",
  "Scan with multiple antivirus engines",
  "Check file reputation in threat intelligence databases"]

/-- How much advice a file of a security level gets. -/
def fileCapacity : Level → Nat
  | .low => 5
  | .medium => 3
  | .high => 2

/-- The advice for a file of a security level. -/
def ofFile (security : Level) : List Text := forFiles.take (fileCapacity security)

/-! ## 2. Code -/

/-- The advice for code, the most important first. -/
def forCode : List Suggestion := [
  ⟨.high, "Implement parameterized queries",
    "Use prepared statements to prevent SQL injection attacks"⟩,
  ⟨.high, "Add input sanitization", "Sanitize and validate all user inputs before processing"⟩,
  ⟨.medium, "Implement CSRF protection",
    "Add CSRF tokens to protect against cross-site request forgery"⟩,
  ⟨.high, "Use secure password hashing", "Implement bcrypt or Argon2 for password hashing"⟩,
  ⟨.medium, "Add proper error handling",
    "Implement comprehensive error handling without exposing sensitive information"⟩,
  ⟨.low, "Use environment variables", "Store sensitive configuration in environment variables"⟩]

/-- How much advice code of a security level gets at most. -/
def codeCapacity : Level → Nat
  | .low => 6
  | .medium => 4
  | .high => 2

/-- How much advice code gets at least. -/
def codeMinimum : Nat := 2

/-- The advice for code of a security level: one piece for every finding, but no fewer than the
minimum and no more than the capacity. -/
def ofCode (security : Level) (findings : Int) : List Suggestion :=
  forCode.take (min (max findings codeMinimum) (codeCapacity security)).toNat

end Advice
end ThreatScan
