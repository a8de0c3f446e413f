/-
# Signatures for code

The two vulnerability tables are matched one line at a time.  A rule that leads from a source
to a sink starts at the beginning of the line and commits to the first source, so a line
without the sink is refused in one pass.  The performance table is matched against the whole
code; a weight there is the penalty for the presence of the pattern.
-/
import ThreatScan.Catalog.Signature

namespace ThreatScan
namespace Shipped

open Pattern

/-! ## 1. Pieces of rules -/

/-- Commits to the first place, from here on, where `p` fits. -/
def firstUpTo (p : Pattern) : Pattern := commit (seq shortGap p)

/-- The line holds `sources` one after the other and then one of the words. -/
def flow (sources : List Pattern) (sinks : List Text) : Pattern :=
  sequence (atStart :: sources.map firstUpTo ++ [shortGap, words sinks])

/-- A verb of the query language. -/
def queryVerb : Pattern := words ["SELECT", "INSERT", "UPDATE", "DELETE"]

/-- An operator that joins texts. -/
def joinOperator : Pattern := words ["+", "||"]

/-- An assignment to the markup of a page. -/
def markupAssignment : Pattern := sequence [word "innerHTML", blanks, word "="]

/-- One of the names, an equals sign and an opening quotation mark. -/
def assignsQuoted (names : List Text) : List Pattern :=
  [words names, blanks, word "=", blanks, one .quote]

/-! ## 2. Vulnerabilities -/

/-- A vulnerability signature. -/
def vulnerability (ruleId label : Text) (severity : Level) (description : Text)
    (pattern : Pattern) : Signature :=
  { ruleId, pattern, label, severity, category := .vulnerability, description }

/-- The vulnerabilities that a code report lists. -/
def vulnerabilities : List Signature := [
  vulnerability "TL-VULN-001" "SQL Injection vulnerability detected" .high
    "Database queries are constructed using string concatenation without parameterization"
    (flow [queryVerb, joinOperator] ["input", "request", "params"]),
  vulnerability "TL-VULN-002" "Cross-Site Scripting (XSS) vulnerability" .high
    "User input is directly rendered without sanitization"
    (flow [markupAssignment] ["input", "request", "params"]),
  vulnerability "TL-VULN-003" "Weak password detected" .medium
    "Hardcoded password appears to be weak or too short"
    (sequence (assignsQuoted ["password"] ++ [upTo 1 .notQuote 7, one .quote])),
  vulnerability "TL-VULN-004" "Hardcoded credentials detected" .high
    "Sensitive information is hardcoded in the source code"
    (sequence (assignsQuoted ["api_key", "secret_key", "private_key"] ++
      [someOf .notQuote, one .quote])),
  vulnerability "TL-VULN-005" "Command injection vulnerability" .high
    "System commands are executed with user-controlled input"
    (flow [word "system("] ["$_GET", "$_POST", "$_REQUEST"])]

/-- The vulnerabilities that the quality assessment weighs: the label is the kind of
vulnerability and the description its impact. -/
def advancedVulnerabilities : List Signature := [
  vulnerability "TL-AVULN-001" "SQL Injection" .high "Database compromise possible"
    (flow [queryVerb, joinOperator] ["input", "request", "params", "$_GET", "$_POST"]),
  vulnerability "TL-AVULN-002" "Cross-Site Scripting (XSS)" .high "Client-side code execution"
    (flow [markupAssignment] ["input", "request", "params", "$_GET", "$_POST"]),
  vulnerability "TL-AVULN-003" "Command Injection" .high "Server compromise possible"
    (flow [words ["system(", "exec("]] ["$_GET", "$_POST", "$_REQUEST"]),
  vulnerability "TL-AVULN-004" "Hardcoded Credentials" .medium "Credential exposure risk"
    (sequence (assignsQuoted ["api_key", "secret_key", "private_key", "password"] ++
      [someOf .notQuote, one .quote])),
  vulnerability "TL-AVULN-005" "Code Injection" .medium "Dynamic code execution risk"
    (alt (sequence [word "eval", blanks, word "("])
      (sequence [word "Function", blanks, word "(", gap, word ")"]))]

/-! ## 3. Performance -/

/-- A performance signature with its penalty. -/
def slowdown (ruleId label : Text) (penalty : Binary64) (pattern : Pattern) : Signature :=
  { ruleId, pattern, label, weight := penalty }

/-- Patterns that cost time. -/
def performance : List Signature := [
  slowdown "TL-PERF-001" "Nested loops detected - O(n³) complexity risk" 20
    (sequence [word "for", firstUpTo (word "for"), shortGap, word "for"]),
  slowdown "TL-PERF-002" "Infinite loop patterns detected" 30
    (alt (sequence [word "while", blanks, word "(true)"])
      (sequence [word "for", blanks, word "(", blanks, word ";", blanks, word ";", blanks,
        word ")"])),
  slowdown "TL-PERF-003" "Timer-based operations may impact performance" 10
    (words ["setTimeout", "setInterval"]),
  slowdown "TL-PERF-004" "Network requests without proper error handling" 15
    (words ["fetch", "XMLHttpRequest", "axios"])]

end Shipped
end ThreatScan
