/-
# Reports as documents

The full report is a document with every member of the records; the summary has the counts
instead of the lists.  The summary writes a surrogate as an escape.  The document writes it as it
is, and as there are no bytes for it, a report with a surrogate in one of its texts has no document.
-/
import ThreatScan.Failure
import ThreatScan.Json.Printer
import ThreatScan.Report.Basic

namespace ThreatScan

/-! ## 1. Texts -/

/-- The texts of a finding. -/
def Finding.texts (f : Finding) : List Text := [f.ruleId, f.label, f.snippet]

/-- The texts of a vulnerability in detail. -/
def VulnerabilityDetail.texts (v : VulnerabilityDetail) : List Text := [v.title, v.description]

/-- The texts of a suggestion. -/
def Suggestion.texts (s : Suggestion) : List Text := [s.title, s.description]

/-- The texts of a malware assessment. -/
def MalwareAssessment.texts (a : MalwareAssessment) : List Text :=
  a.threats ++ a.anomalyDetection.suspiciousPatterns ++ a.secondaryError.toList

/-- The texts of the metadata. -/
def Metadata.texts (m : Metadata) : List Text := [m.name, m.type, m.contentHash]

/-- The texts of a report. -/
def Report.texts (r : Report) : List Text :=
  r.findings.flatMap Finding.texts ++ r.vulnerabilities ++ r.suggestions ++ r.metadata.texts ++
    r.errors ++ r.malwareAssessment.toList.flatMap MalwareAssessment.texts ++
    r.advancedMetrics.toList.flatMap AdvancedMetrics.behaviorAnalysis

/-- The texts of a report on code. -/
def CodeReport.texts (r : CodeReport) : List Text :=
  r.toReport.texts ++ [r.detectedLanguage] ++
    r.detailedVulnerabilities.flatMap VulnerabilityDetail.texts ++
    r.detailedSuggestions.flatMap Suggestion.texts ++
    r.codeQuality.toList.flatMap CodeQuality.recommendations ++
    r.performanceImpact.toList.flatMap PerformanceImpact.bottlenecks

/-- The texts of a report of either kind. -/
def ScanReport.texts : ScanReport → List Text
  | .file r => r.texts
  | .code r => r.texts

/-! ## 2. Records as untyped data -/

namespace Json

/-- A level. -/
def ofLevel (l : Level) : Json := .text l.name

/-- A finding. -/
def ofFinding (f : Finding) : Json :=
  .record [("rule_id", .text f.ruleId), ("label", .text f.label), ("severity", ofLevel f.severity),
    ("category", .text f.category.name), ("weight", .float f.weight),
    ("match_count", .int f.matchCount), ("line_number", .optional .int f.lineNumber),
    ("snippet", .text f.snippet)]

/-- A vulnerability in detail. -/
def ofVulnerabilityDetail (v : VulnerabilityDetail) : Json :=
  .record [("severity", ofLevel v.severity), ("title", .text v.title),
    ("description", .text v.description), ("line", .int v.line)]

/-- A suggestion. -/
def ofSuggestion (s : Suggestion) : Json :=
  .record [("priority", ofLevel s.priority), ("title", .text s.title),
    ("description", .text s.description)]

/-- Signs of concealment. -/
def ofAnomalyDetection (a : AnomalyDetection) : Json :=
  .record [("is_anomaly", .bool a.isAnomaly), ("anomaly_score", .float a.anomalyScore),
    ("suspicious_patterns", .texts a.suspiciousPatterns)]

/-- A malware assessment. -/
def ofMalwareAssessment (a : MalwareAssessment) : Json :=
  .record [("is_malicious", .bool a.isMalicious), ("confidence", .float a.confidence),
    ("pattern_score", .float a.patternScore), ("secondary_score", .float a.secondaryScore),
    ("combined_score", .float a.combinedScore), ("risk_score", .int a.riskScore),
    ("security_score", .int a.securityScore), ("threats", .texts a.threats),
    ("anomaly_detection", ofAnomalyDetection a.anomalyDetection),
    ("secondary_error", .optional .text a.secondaryError)]

/-- A code quality assessment. -/
def ofCodeQuality (q : CodeQuality) : Json :=
  .record [("security_score", .int q.securityScore),
    ("maintainability_score", .int q.maintainabilityScore),
    ("complexity_score", .int q.complexityScore),
    ("vulnerability_risk", ofLevel q.vulnerabilityRisk),
    ("recommendations", .texts q.recommendations)]

/-- What the indicators say about a file. -/
def ofAdvancedMetrics (m : AdvancedMetrics) : Json :=
  .record [("entropy_score", .float m.entropyScore),
    ("obfuscation_level", ofLevel m.obfuscationLevel),
    ("behavior_analysis", .texts m.behaviorAnalysis)]

/-- What code costs. -/
def ofPerformanceImpact (p : PerformanceImpact) : Json :=
  .record [("score", .int p.score), ("bottlenecks", .texts p.bottlenecks)]

/-- A file to scan. -/
def ofFileInput (f : FileInput) : Json :=
  .record [("name", .text f.name), ("content", .text f.content), ("size", .optional .int f.size),
    ("mime_type", .optional .text f.mimeType)]

/-- What is known of an input. -/
def ofMetadata (m : Metadata) : Json :=
  .record [("name", .text m.name), ("size", .int m.size), ("type", .text m.type),
    ("content_hash", .text m.contentHash), ("scan_timestamp", .text m.scanned.text)]

/-- The number of findings of each severity. -/
def ofSeverityCounts (fs : List Finding) : Json :=
  .object ((Finding.countBySeverity fs).map fun (l, n) => (l.name, .int n))

/-! ## 3. Reports -/

/-- The members that all reports have. -/
def reportMembers (r : Report) : List (String × Json) :=
  [("kind", .text r.kind.name), ("security_level", ofLevel r.securityLevel),
    ("risk_level", ofLevel r.riskLevel), ("threat_count", .int r.threatCount),
    ("warning_count", .int r.warningCount), ("findings", .array (r.findings.map ofFinding)),
    ("vulnerabilities", .texts r.vulnerabilities), ("suggestions", .texts r.suggestions),
    ("metadata", ofMetadata r.metadata), ("errors", .texts r.errors),
    ("malware_assessment", .optional ofMalwareAssessment r.malwareAssessment),
    ("advanced_metrics", .optional ofAdvancedMetrics r.advancedMetrics)]

/-- The members that only reports on code have. -/
def codeMembers (r : CodeReport) : List (String × Json) :=
  [("lines_of_code", .int r.linesOfCode), ("complexity_score", .int r.complexityScore),
    ("security_score", .int r.securityScore), ("detected_language", .text r.detectedLanguage),
    ("obfuscation_level", ofLevel r.obfuscationLevel),
    ("detailed_vulnerabilities", .array (r.detailedVulnerabilities.map ofVulnerabilityDetail)),
    ("detailed_suggestions", .array (r.detailedSuggestions.map ofSuggestion)),
    ("code_quality", .optional ofCodeQuality r.codeQuality),
    ("performance_impact", .optional ofPerformanceImpact r.performanceImpact)]

/-- The member that is worked out from the findings. -/
def severityMember (r : Report) : String × Json :=
  ("finding_count_by_severity", ofSeverityCounts r.findings)

/-- A report with all its members. -/
def ofReport : ScanReport → Json
  | .file r => .record (reportMembers r ++ [severityMember r])
  | .code r => .record (reportMembers r.toReport ++ codeMembers r ++ [severityMember r.toReport])

/-- The members of a summary that all reports have. -/
def summaryMembers (r : Report) : List (String × Json) :=
  [("kind", .text r.kind.name), ("name", .text r.metadata.name),
    ("content_hash", .text r.metadata.contentHash), ("security_level", ofLevel r.securityLevel),
    ("risk_level", ofLevel r.riskLevel), ("threat_count", .int r.threatCount),
    ("warning_count", .int r.warningCount), ("finding_count", .int r.findings.length),
    severityMember r]

/-- A report without its lists. -/
def ofSummary : ScanReport → Json
  | .file r => .record (summaryMembers r)
  | .code r => .record (summaryMembers r.toReport ++
      [("security_score", .int r.securityScore), ("detected_language", .text r.detectedLanguage)])

end Json

namespace ScanReport

/-- One of the texts holds a surrogate. -/
def hasSurrogate (r : ScanReport) : Bool := r.texts.any (·.any Text.isSurrogate)

/-- The full report as a document. -/
def document (r : ScanReport) : Except Failure Text :=
  if r.hasSurrogate then .error .unserializable else .ok (Json.print .document (Json.ofReport r))

/-- The summary as a document. -/
def summary (r : ScanReport) : Text := Json.print .block (Json.ofSummary r)

end ScanReport
end ThreatScan
