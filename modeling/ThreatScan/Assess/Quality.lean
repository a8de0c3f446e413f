/-
# Code quality

Code is assessed by its structure and by the weighed vulnerabilities.  The structure is a count
of branching words over the lines that are not blank; a comment makes code easier to maintain,
a long line and a branch harder.
-/
import ThreatScan.Data.Decode
import ThreatScan.Scan.Matching
import ThreatScan.Scan.Verdict

namespace ThreatScan
namespace Quality

open Pattern

/-! ## 1. Structure -/

/-- A word, blanks and an opening bracket. -/
def opening (word bracket : Text) : Pattern := sequence [exact word, blanks, exact bracket]

/-- What makes code branch. -/
def branches : List Pattern := [opening "if" "(", exact "else", opening "for" "(",
  opening "while" "(", opening "switch" "(", opening "try" "\x7b", opening "catch" "(",
  exact "&&", exact "||"]

/-- The searches for what makes code branch. -/
def branchSearches : List Search := branches.map Pattern.search

/-- A mark of a comment. -/
def commentMark : Pattern := oneOf [exact "//", exact "/*", exact "*"]

/-- The structure of code: how much it branches, up to 100, and how easy it is to maintain. -/
structure Metrics where
  complexity : Binary64
  maintainability : Binary64
deriving DecidableEq, Repr

/-- The number of kinds of branch in a line. -/
def branchKinds (line : Text) : Nat := branchSearches.countP fun s => s.foundIn line

/-- The lines that are not blank. -/
def solidLines (code : Text) : List Text := (Text.lines code).filter fun l => !Text.isBlankLine l

/-- The complexity of `lines` lines with `branches` branches. -/
def complexityOf (branches lines : Nat) (h : lines ≠ 0) : Binary64 :=
  Binary64.least (Binary64.ofQuotient branches lines h * 50) 100

/-- How easy it is to maintain `lines` lines of `length` characters in all, with `branches`
branches and `comments` marks of a comment. -/
def maintainabilityOf (branches lines length comments : Nat) (h : lines ≠ 0) : Binary64 :=
  Binary64.greatest
    (100 - Binary64.ofQuotient length lines h * 0.5 - Binary64.ofNat branches * 0.3 +
      Binary64.ofQuotient comments lines h * 20) 0

/-- The structure of code; blank code is as simple as can be. -/
def metrics (code : Text) : Metrics :=
  let solid := solidLines code
  if h : solid.length = 0 then ⟨0, 100⟩
  else
    let total := solid.foldl (fun n l => n + branchKinds l) 0
    let length := solid.foldl (fun n l => n + l.length) 0
    ⟨complexityOf total solid.length h,
      maintainabilityOf total solid.length length (commentMark.count code) h⟩

/-! ## 2. The assessment -/

/-- One hundred, less a penalty for each vulnerability and for complexity beyond 50. -/
def securityScore (m : Matching) (s : Metrics) : Binary64 :=
  Binary64.greatest
    (100 - Binary64.ofNat (m.count .high * 25) - Binary64.ofNat (m.count .medium * 10) -
      Binary64.greatest 0 ((s.complexity - 50) * 0.5)) 0

/-- The risk that the vulnerabilities pose. -/
def vulnerabilityRisk (m : Matching) : Level :=
  if 2 ≤ m.count .high then .high
  else if 1 ≤ m.count .high ∨ 3 ≤ m.count .medium then .medium
  else .low

/-- The advice for each kind of vulnerability. -/
def remedies : List (Text × Text) := [
  ("SQL Injection", "Implement parameterized queries and input validation"),
  ("Cross-Site Scripting (XSS)", "Add output encoding and Content Security Policy"),
  ("Command Injection", "Use safe command execution methods and input sanitization"),
  ("Hardcoded Credentials", "Move sensitive data to environment variables or secure vaults")]

/-- The advice for complex code. -/
def simplify : Text := "Refactor complex functions to improve maintainability"

/-- The advice for code that is hard to maintain. -/
def explain : Text := "Add documentation and reduce code complexity"

/-- The advice for the vulnerabilities found and for the structure. -/
def recommendations (m : Matching) (s : Metrics) : List Text :=
  (remedies.filter fun r => m.labels.contains r.1).map (·.2) ++
    (if Binary64.less 70 s.complexity then [simplify] else []) ++
    (if s.maintainability.less 60 then [explain] else [])

/-- The assessment that follows from the vulnerabilities and the structure. -/
def assessment (m : Matching) (s : Metrics) : CodeQuality where
  securityScore := (securityScore m s).round
  maintainabilityScore := s.maintainability.round
  complexityScore := s.complexity.round
  vulnerabilityRisk := vulnerabilityRisk m
  recommendations := recommendations m s

/-- What is said about an assessment. -/
def event (m : Matching) (s : Metrics) : Event where
  importance := .debug
  speaker := "threatlens.ml.quality"
  message :=
    "Code quality: security=" ++ Decimal.fixed 1 (securityScore m s) ++ " complexity=" ++
      Decimal.fixed 1 s.complexity ++ " maintainability=" ++ Decimal.fixed 1 s.maintainability ++
      " vulns=" ++ Text.ofNat m.findings.length

/-- The members of an assessment that are out of bounds. -/
def violations (q : CodeQuality) : List Violation :=
  let check := fun (name : Text) (b : Decode.Bounds) (n : Int) =>
    ((b.brokenBy n).map (Violation.atField name)).toList
  check "security_score" .percent q.securityScore ++
    check "maintainability_score" .natural q.maintainabilityScore ++
    check "complexity_score" .percent q.complexityScore

/-- The assessment of code by a table of vulnerabilities.  It fails if a finding is refused or a
number is out of bounds. -/
def analyze (table : List Signature) (code : Text) : Traced CodeQuality := do
  let m ← (Matching.ofLines code table).traced
  let s := metrics code
  Traced.say [event m s]
  let q := assessment m s
  match violations q with
  | [] => pure q
  | vs => .fail (.invalid vs)

end Quality
end ThreatScan
