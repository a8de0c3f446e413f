/-
# Reports

The inputs of a scan and its results.  A `Report` tells what was found in a file; a
`CodeReport` adds what is known of code.  In every report the risk level mirrors the security
level.
-/
import ThreatScan.Report.Timestamp
import ThreatScan.Scan.Indication
import ThreatScan.Scan.Verdict
import ThreatScan.Text.Utf8

namespace ThreatScan

/-! ## 1. Inputs -/

/-- A file to scan. -/
structure FileInput where
  name : Text
  content : Text
  size : Option Int := none
  mimeType : Option Text := none
deriving DecidableEq, Repr, Inhabited

/-- Code to scan. -/
structure CodeInput where
  content : Text
deriving DecidableEq, Repr, Inhabited

/-- The text that bytes encode; `source` names them in the failure. -/
def decodeContent (source : Text) (bytes : List Nat) : Except Failure Text :=
  match Text.decode bytes with
  | .ok t => .ok t
  | .error offset => .error (.undecodable source offset)

/-- A file from its bytes. -/
def FileInput.ofBytes (name : Text) (bytes : List Nat) (mimeType : Option Text) :
    Except Failure FileInput :=
  match decodeContent name bytes with
  | .ok content => .ok { name, content, size := some bytes.length, mimeType }
  | .error f => .error f

/-! ## 2. Results -/

/-- What was scanned. -/
inductive InputKind where
  | file
  | code
deriving DecidableEq, Repr, Inhabited

namespace InputKind

/-- The name of a kind. -/
def name : InputKind → Text
  | .file => "file"
  | .code => "code"

/-- The kind of a name. -/
def ofName? (t : Text) : Option InputKind := [file, code].find? fun k => k.name = t

end InputKind

/-- What is known of an input beside its content. -/
structure Metadata where
  name : Text
  size : Int
  type : Text
  contentHash : Text
  scanned : Timestamp
deriving DecidableEq, Repr, Inhabited

/-- What the indicators say about a file. -/
structure AdvancedMetrics where
  entropyScore : Binary64
  obfuscationLevel : Level
  behaviorAnalysis : List Text
deriving DecidableEq, Repr, Inhabited

/-- The result of a scan. -/
structure Report where
  kind : InputKind
  securityLevel : Level
  riskLevel : Level
  threatCount : Int
  warningCount : Int
  findings : List Finding
  vulnerabilities : List Text
  suggestions : List Text
  metadata : Metadata
  errors : List Text
  malwareAssessment : Option MalwareAssessment
  advancedMetrics : Option AdvancedMetrics
deriving DecidableEq, Repr, Inhabited

/-- The result of a scan of code. -/
structure CodeReport extends Report where
  linesOfCode : Int
  complexityScore : Int
  securityScore : Int
  detectedLanguage : Text
  obfuscationLevel : Level
  detailedVulnerabilities : List VulnerabilityDetail
  detailedSuggestions : List Suggestion
  codeQuality : Option CodeQuality
  performanceImpact : Option PerformanceImpact
deriving DecidableEq, Repr, Inhabited

/-- The result of either kind of scan. -/
inductive ScanReport where
  | file (report : Report)
  | code (report : CodeReport)
deriving DecidableEq, Repr, Inhabited

namespace ScanReport

/-- What both kinds of result have in common. -/
def base : ScanReport → Report
  | .file r => r
  | .code r => r.toReport

end ScanReport

/-- The rule that the levels of a report have to obey. -/
def Level.pairing (security risk : Level) : List Violation :=
  if risk = security.risk then []
  else [⟨[], .value ("security level " ++ security.name ++ " must pair with risk level " ++
    security.risk.name ++ ", got " ++ risk.name)⟩]

end ThreatScan
