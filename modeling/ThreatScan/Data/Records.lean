/-
# Decoding records

The decoders of the records that a caller may hand in as untyped data.  The findings, the
assessments and the reports have bounds on their numbers, and the two levels of a report have to
match; that is looked at only if every member is right by itself.
-/
import ThreatScan.Report.Basic

namespace ThreatScan
namespace Decode

/-! ## 1. Findings -/

/-- A finding. -/
def finding : Decoder Finding := record "Finding" fun ms =>
  Finding.mk <$> required "rule_id" text ms <*> required "label" text ms
    <*> required "severity" level ms <*> required "category" category ms
    <*> required "weight" (numberIn .natural) ms
    <*> defaulted "match_count" 1 (integerIn .positive) ms
    <*> defaulted "line_number" none (optional (integerIn .positive)) ms
    <*> defaulted "snippet" [] text ms

/-- A vulnerability in detail. -/
def vulnerabilityDetail : Decoder VulnerabilityDetail := record "DetailedVulnerability" fun ms =>
  VulnerabilityDetail.mk <$> required "severity" level ms <*> required "title" text ms
    <*> required "description" text ms <*> required "line" integer ms

/-- A suggestion. -/
def suggestion : Decoder Suggestion := record "Suggestion" fun ms =>
  Suggestion.mk <$> required "priority" level ms <*> required "title" text ms
    <*> required "description" text ms

/-! ## 2. Assessments -/

/-- Signs of concealment. -/
def anomalyDetection : Decoder AnomalyDetection := record "AnomalyDetection" fun ms =>
  AnomalyDetection.mk <$> required "is_anomaly" boolean ms
    <*> required "anomaly_score" (numberIn .unit) ms
    <*> defaulted "suspicious_patterns" [] texts ms

/-- A malware assessment. -/
def malwareAssessment : Decoder MalwareAssessment := record "MalwareAssessment" fun ms =>
  MalwareAssessment.mk <$> required "is_malicious" boolean ms
    <*> required "confidence" (numberIn .unit) ms
    <*> required "pattern_score" (numberIn .unit) ms
    <*> required "secondary_score" (numberIn .unit) ms
    <*> required "combined_score" (numberIn .unit) ms
    <*> required "risk_score" (integerIn .percent) ms
    <*> required "security_score" (integerIn .percent) ms
    <*> defaulted "threats" [] texts ms
    <*> required "anomaly_detection" anomalyDetection ms
    <*> defaulted "secondary_error" none (optional text) ms

/-- A code quality assessment. -/
def codeQuality : Decoder CodeQuality := record "CodeQualityAssessment" fun ms =>
  CodeQuality.mk <$> required "security_score" (integerIn .percent) ms
    <*> required "maintainability_score" (integerIn .natural) ms
    <*> required "complexity_score" (integerIn .percent) ms
    <*> required "vulnerability_risk" level ms
    <*> defaulted "recommendations" [] texts ms

/-- What the indicators say about a file. -/
def advancedMetrics : Decoder AdvancedMetrics := record "AdvancedMetrics" fun ms =>
  AdvancedMetrics.mk <$> required "entropy_score" (numberIn .natural) ms
    <*> required "obfuscation_level" level ms
    <*> defaulted "behavior_analysis" [] texts ms

/-- What code costs. -/
def performanceImpact : Decoder PerformanceImpact := record "PerformanceImpact" fun ms =>
  PerformanceImpact.mk <$> required "score" (integerIn .percent) ms
    <*> defaulted "bottlenecks" [] texts ms

/-! ## 3. Inputs and reports -/

/-- A file to scan. -/
def fileInput : Decoder FileInput := record "FileInput" fun ms =>
  FileInput.mk <$> required "name" text ms <*> required "content" text ms
    <*> defaulted "size" none (optional (integerIn .natural)) ms
    <*> defaulted "mime_type" none (optional text) ms

/-- Code to scan. -/
def codeInput : Decoder CodeInput := record "CodeInput" fun ms =>
  CodeInput.mk <$> required "content" text ms

/-- What is known of an input. -/
def metadata : Decoder Metadata := record "FileMetadata" fun ms =>
  Metadata.mk <$> required "name" text ms <*> required "size" integer ms
    <*> required "type" text ms <*> required "content_hash" text ms
    <*> required "scan_timestamp" Timestamp.decode ms

/-- The kind of an input. -/
def inputKind : Decoder InputKind := choice ["file", "code"] InputKind.ofName?

/-- The members that all reports have. -/
def reportMembers (kind : InputKind) (ms : Members) : Checked Report :=
  Report.mk <$> defaulted "kind" kind inputKind ms <*> required "security_level" level ms
    <*> required "risk_level" level ms
    <*> required "threat_count" (integerIn .natural) ms
    <*> required "warning_count" (integerIn .natural) ms
    <*> defaulted "findings" [] (listOf finding) ms
    <*> defaulted "vulnerabilities" [] texts ms <*> defaulted "suggestions" [] texts ms
    <*> required "metadata" metadata ms <*> defaulted "errors" [] texts ms
    <*> defaulted "malware_assessment" none (optional malwareAssessment) ms
    <*> defaulted "advanced_metrics" none (optional advancedMetrics) ms

/-- The members that a report on code has in addition, given those of all reports. -/
def codeReportMembers (base : Checked Report) (ms : Members) : Checked CodeReport :=
  CodeReport.mk <$> base <*> required "lines_of_code" (integerIn .natural) ms
    <*> required "complexity_score" (integerIn .tenths) ms
    <*> required "security_score" (integerIn .percent) ms
    <*> required "detected_language" text ms
    <*> defaulted "obfuscation_level" .low level ms
    <*> defaulted "detailed_vulnerabilities" [] (listOf vulnerabilityDetail) ms
    <*> defaulted "detailed_suggestions" [] (listOf suggestion) ms
    <*> defaulted "code_quality" none (optional codeQuality) ms
    <*> defaulted "performance_impact" none (optional performanceImpact) ms

/-- A report whose levels match. -/
def report : Decoder Report := record "AnalysisResult" fun ms =>
  (reportMembers .file ms).andThen fun r =>
    .ofViolations r (Level.pairing r.securityLevel r.riskLevel)

/-- A report on code whose levels match. -/
def codeReport : Decoder CodeReport := record "CodeAnalysisResult" fun ms =>
  (codeReportMembers (reportMembers .code ms) ms).andThen fun r =>
    .ofViolations r (Level.pairing r.securityLevel r.riskLevel)

end Decode
end ThreatScan
