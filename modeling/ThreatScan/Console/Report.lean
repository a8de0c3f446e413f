/-
# Reports for the terminal

A report for a reader: what was scanned, the verdict in a frame, the findings in a table, and
lists of vulnerabilities, suggestions and errors.
-/
import ThreatScan.Console.Table
import ThreatScan.Report.Basic
import ThreatScan.Version

namespace ThreatScan
namespace Console

/-! ## 1. Sections -/

/-- The lines of a paragraph on a page. -/
def paragraph (t : Text) : List Text := wrap pageWidth .fold .ragged t

/-- A blank line. -/
def blank : List Text := [[]]

/-- The title. -/
def title : List Text :=
  blank ++ paragraph ("threatlens v" ++ programVersion ++
    " - File & Code Security Scanner") ++ blank

/-- What is known of any input. -/
def commonFacts (m : Metadata) : List (Text × Text) :=
  [("Name:", m.name), ("Type:", m.type), ("Size:", Text.ofInt m.size ++ " bytes"),
    ("Hash:", m.contentHash), ("Scanned:", m.scanned.display)]

/-- What is known of code. -/
def codeFacts (r : CodeReport) : List (Text × Text) :=
  [("Language:", r.detectedLanguage), ("Lines:", Text.ofInt r.linesOfCode)]

/-- The facts about the input. -/
def facts : ScanReport → List (Text × Text)
  | .file r => commonFacts r.metadata
  | .code r => commonFacts r.metadata ++ codeFacts r

/-- The facts as a table, their names in a column as wide as the longest. -/
def factTable (fs : List (Text × Text)) : Table where
  columns := [{ width := some (fs.foldl (fun n f => max n f.1.length) 0) }, {}]
  rows := fs.map fun f => [f.1, f.2]
  padding := 2
  showsHeader := false

/-- The verdict on any input. -/
def verdict (r : Report) : Text :=
  "SECURITY: " ++ r.securityLevel.name ++ "  RISK: " ++ r.riskLevel.name ++ "  (threats: " ++
    Text.ofInt r.threatCount ++ ", warnings: " ++ Text.ofInt r.warningCount ++ ")"

/-- The verdict, with the score of code. -/
def banner : ScanReport → Text
  | .file r => verdict r
  | .code r => verdict r.toReport ++ "  score: " ++ Text.ofInt r.securityScore ++ "/100"

/-- The number of the line of a finding. -/
def lineText (f : Finding) : Text :=
  match f.lineNumber with
  | some n => if n = 0 then "-" else Text.ofInt n
  | none => "-"

/-- The findings as a table. -/
def findingTable (fs : List Finding) : Table where
  columns := [{ header := "Rule", width := some 13 }, { header := "Severity", width := some 8 },
    { header := "Finding" }, { header := "Line", width := some 5, alignment := .right }]
  rows := fs.map fun f => [f.ruleId, f.severity.name, f.label, lineText f]
  padding := 1
  showsHeader := true

/-- The findings, or that there are none. -/
def findings : List Finding → List Text
  | [] => paragraph "  No threats detected." ++ blank
  | f :: fs => (findingTable (f :: fs)).lines ++ blank

/-- A list with a heading, if there is anything in it. -/
def listing (heading : Text) : List Text → List Text
  | [] => []
  | x :: xs =>
    paragraph heading ++ (x :: xs).flatMap (fun x => paragraph ("  - " ++ x)) ++ blank

/-- The errors, if there are any. -/
def errors : List Text → List Text
  | [] => []
  | e :: es =>
    paragraph ("  Errors: " ++ Text.ofNat (es.length + 1)) ++
      (e :: es).flatMap (fun e => paragraph ("    " ++ e)) ++ blank

/-! ## 2. The page -/

/-- The lines of a report. -/
def lines (r : ScanReport) : List Text :=
  title ++ (factTable (facts r)).lines ++ blank ++ panel (banner r) ++ blank ++
    findings r.base.findings ++ listing "Vulnerabilities" r.base.vulnerabilities ++
    listing "Suggestions" r.base.suggestions ++ errors r.base.errors

end Console

namespace ScanReport

/-- The report as it is shown on a terminal. -/
def page (r : ScanReport) : Text := (Console.lines r).flatMap fun line => line ++ [Text.newline]

end ScanReport
end ThreatScan
