/-
# Making reports

A report is made from the facts of a scan.  Most of it follows from them: the risk level mirrors
the security level, the vulnerabilities are the findings in words, and the advice depends on the
level.  Only numbers out of bounds can prevent it.
-/
import ThreatScan.Data.Decode
import ThreatScan.Report.Advice
import ThreatScan.Report.Basic
import ThreatScan.Report.Nature

namespace ThreatScan

/-! ## 1. Files -/

/-- What a scan knows of a file in the end. -/
structure FileFacts where
  file : FileInput
  contentHash : Text
  securityLevel : Level
  threatCount : Int
  warningCount : Int
  findings : List Finding
  metrics : Option AdvancedMetrics := none
  assessment : Option MalwareAssessment := none
  errors : List Text := []

namespace FileFacts

/-- A finding in words, if it stands for a threat. -/
def threat? (f : Finding) : Option Text :=
  match f.category with
  | .malware => some ("Malware signature detected: " ++ f.label)
  | .extension => some f.label
  | _ => none

/-- The threats of an assessment that calls the file malicious. -/
def assessedThreats : Option MalwareAssessment → List Text
  | some a => if a.isMalicious then a.threats else []
  | none => []

/-- The threats in words, each once. -/
def vulnerabilities (findings : List Finding) (assessment : Option MalwareAssessment) :
    List Text :=
  Text.firstOfEach (findings.filterMap threat? ++ assessedThreats assessment)

/-- The size of a file: as it was given, or the number of its bytes. -/
def size (f : FileInput) : Int := f.size.getD (Text.encodedLength f.content)

/-- The media type of a file: as it was given, or by its name. -/
def mediaType (f : FileInput) : Text :=
  match f.mimeType with
  | some (c :: t) => c :: t
  | _ => MediaType.ofName f.name

/-- The numbers that are out of bounds. -/
def violations (f : FileFacts) : List Violation :=
  let natural := fun (name : Text) (n : Int) =>
    ((Decode.Bounds.natural.brokenBy n).map (Violation.atField name)).toList
  natural "threat_count" f.threatCount ++ natural "warning_count" f.warningCount

/-- The report with nothing checked. -/
def toReport (scanned : Timestamp) (f : FileFacts) : Report where
  kind := .file
  securityLevel := f.securityLevel
  riskLevel := f.securityLevel.risk
  threatCount := f.threatCount
  warningCount := f.warningCount
  findings := f.findings
  vulnerabilities := vulnerabilities f.findings f.assessment
  suggestions := Advice.ofFile f.securityLevel
  metadata := ⟨f.file.name, size f.file, mediaType f.file, f.contentHash, scanned⟩
  errors := f.errors
  malwareAssessment := f.assessment
  advancedMetrics := f.metrics

/-- The report on a file. -/
def report (scanned : Timestamp) (f : FileFacts) : Except Failure Report :=
  match f.violations with
  | [] => .ok (f.toReport scanned)
  | vs => .error (.invalid vs)

end FileFacts

/-! ## 2. Code -/

/-- What a scan knows of code in the end. -/
structure CodeFacts where
  code : Text
  contentHash : Text
  securityLevel : Level
  securityScore : Int
  findings : List Finding
  /-- What there is to say about each rule; of two entries for a rule the later one counts. -/
  descriptions : List (Text × Text) := []
  obfuscationLevel : Level := .low
  quality : Option CodeQuality := none
  performance : Option PerformanceImpact := none
  errors : List Text := []

namespace CodeFacts

/-- The name of code. -/
def name : Text := "User Code"

/-- What there is to say about a rule. -/
def description (descriptions : List (Text × Text)) (ruleId : Text) : Text :=
  (descriptions.reverse.lookup ruleId).getD []

/-- A finding in detail. -/
def detail (descriptions : List (Text × Text)) (f : Finding) : VulnerabilityDetail :=
  ⟨f.severity, f.label, description descriptions f.ruleId, f.lineNumber.getD 1⟩

/-- The number of findings of a severity. -/
def count (severity : Level) (findings : List Finding) : Nat :=
  findings.countP fun f => f.severity = severity

/-- How complex code is by its length, at most ten. -/
def complexity (code : Text) : Nat := min (code.length / 100) 10

/-- The report with nothing checked. -/
def toReport (scanned : Timestamp) (f : CodeFacts) : CodeReport :=
  let details := f.findings.map (detail f.descriptions)
  let suggestions := Advice.ofCode f.securityLevel f.findings.length
  { kind := .code
    securityLevel := f.securityLevel
    riskLevel := f.securityLevel.risk
    threatCount := count .high f.findings
    warningCount := count .medium f.findings
    findings := f.findings
    vulnerabilities := details.map (·.title)
    suggestions := suggestions.map (·.description)
    metadata := ⟨name, Text.encodedLength f.code, MediaType.code, f.contentHash, scanned⟩
    errors := f.errors
    malwareAssessment := none
    advancedMetrics := none
    linesOfCode := (Text.lines f.code).length
    complexityScore := complexity f.code
    securityScore := f.securityScore
    detectedLanguage := Language.ofCode f.code
    obfuscationLevel := f.obfuscationLevel
    detailedVulnerabilities := details
    detailedSuggestions := suggestions
    codeQuality := f.quality
    performanceImpact := f.performance }

/-- The report on code; its score lies between zero and one hundred. -/
def report (scanned : Timestamp) (f : CodeFacts) : Except Failure CodeReport :=
  match Decode.Bounds.percent.brokenBy f.securityScore with
  | none => .ok (f.toReport scanned)
  | some r => .error (.invalid [.atField "security_score" r])

end CodeFacts
end ThreatScan
