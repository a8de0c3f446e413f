/-
# The summary is a projection of the full report

The two documents of a report are written in different styles: the summary escapes everything beyond
ASCII, the full report nothing that can be printed as it is, and their numbers are laid out
differently.  Read again they agree.  Each member of the summary is a member of the full report, or
of its metadata (`summarySources`); only the number of findings is not written there, and it is what
their list and their counts by severity add up to.

The summary has no numbers but integers.  The full report may have some that are not finite, which
are written as `null`; no member of the summary depends on them.
-/
import ThreatScan.Proofs.Engine.Consistency
import ThreatScan.Proofs.Report.RoundTrip

namespace ThreatScan
namespace Json

/-! ## 1. What is copied -/

@[simp] theorem nulled_text (t : Text) : nulled (.text t) = .text t := rfl

@[simp] theorem nulled_int (n : ℤ) : nulled (.int n) = .int n := rfl

@[simp] theorem nulled_ofLevel (l : Level) : nulled (ofLevel l) = ofLevel l := rfl

/-- Counts have no numbers but integers. -/
@[simp] theorem nulled_ofSeverityCounts (fs : List Finding) :
    nulled (ofSeverityCounts fs) = ofSeverityCounts fs := by
  rw [ofSeverityCounts, nulled, nulledMembers_eq, List.map_map]
  rfl

end Json

namespace ScanReport

/-- The report is one on code. -/
def isCode : ScanReport → Bool
  | .file _ => false
  | .code _ => true

/-- The members of every summary that are copied, and where they are in the full report. -/
def commonSources : List (String × List String) :=
  [("kind", ["kind"]), ("name", ["metadata", "name"]),
    ("content_hash", ["metadata", "content_hash"]), ("security_level", ["security_level"]),
    ("risk_level", ["risk_level"]), ("threat_count", ["threat_count"]),
    ("warning_count", ["warning_count"]),
    ("finding_count_by_severity", ["finding_count_by_severity"])]

/-- The members that only a summary of a report on code has. -/
def codeSources : List (String × List String) :=
  [("security_score", ["security_score"]), ("detected_language", ["detected_language"])]

/-- The members of the summary of a report that are copied. -/
def summarySources (r : ScanReport) : List (String × List String) :=
  if r.isCode then commonSources ++ codeSources else commonSources

/-- Each member that is copied has a value without numbers, which is also in the full report. -/
theorem exists_of_summarySources (r : ScanReport) : ∀ m ∈ r.summarySources, ∃ x,
    (Json.ofSummary r).get? m.1 = some x ∧ (Json.ofReport r).follow? m.2 = some x ∧
      Json.nulled x = x := by
  cases r with
  | file r =>
    simp only [summarySources, isCode, Bool.false_eq_true, if_false, commonSources,
      List.forall_mem_cons, Json.ofSummary, Json.summaryMembers, Json.ofReport,
      Json.reportMembers, Json.get?_record, Json.follow?]
    simp [List.lookup_cons, Json.ofMetadata, Json.get?_record, Json.severityMember]
  | code r =>
    simp only [summarySources, isCode, if_true, commonSources, codeSources, List.cons_append,
      List.nil_append, List.forall_mem_cons, Json.ofSummary, Json.summaryMembers, Json.ofReport,
      Json.reportMembers, Json.codeMembers, Json.get?_record, Json.follow?]
    simp [List.lookup_cons, Json.ofMetadata, Json.get?_record, Json.severityMember]

/-! ## 2. The two documents -/

theorem carries_summaryMembers {P : Binary64 → Prop} {r : Report}
    (htexts : ∀ t ∈ r.metadata.texts, t.AllScalar) :
    ∀ m ∈ Json.summaryMembers r, Json.Carries P m.2 := by
  simp only [Metadata.texts, List.forall_mem_cons] at htexts
  obtain ⟨hname, -, hhash, -⟩ := htexts
  have hkind : Json.Carries P (.text r.kind.name) := by
    cases r.kind <;> exact .text (Text.allScalar_ofString _)
  simp only [Json.summaryMembers, List.forall_mem_cons]
  exact ⟨hkind, .text hname, .text hhash, Json.carries_ofLevel _, Json.carries_ofLevel _, .int _,
    .int _, .int _, Json.carries_ofSeverityCounts _, List.forall_mem_nil _⟩

theorem carries_ofSummary {P : Binary64 → Prop} {r : ScanReport}
    (htexts : ∀ t ∈ r.texts, t.AllScalar) : Json.Carries P (Json.ofSummary r) := by
  have hmembers : ∀ m ∈ Json.summaryMembers r.base, Json.Carries P m.2 :=
    carries_summaryMembers fun t ht => htexts t (mem_texts_of_metadata ht)
  cases r with
  | file r => exact Json.carries_record hmembers
  | code r =>
    have hlanguage : r.detectedLanguage.AllScalar :=
      htexts _ (by simp [texts, CodeReport.texts])
    refine Json.carries_record (List.forall_mem_append.mpr ⟨hmembers, ?_⟩)
    simp only [List.forall_mem_cons]
    exact ⟨.int _, .text hlanguage, List.forall_mem_nil _⟩

/-- **What is read from the two documents of a report agrees.** -/
structure IsProjection (r : ScanReport) (summary full : Json) : Prop where
  /-- No name of a member is used twice. -/
  nodup : summary.names.Nodup ∧ full.names.Nodup
  /-- Beside the number of findings the summary has copied members only. -/
  names : ∀ name ∈ summary.names, name = "finding_count" ∨ ∃ m ∈ r.summarySources, name = m.1
  /-- What is copied is in both documents, and the same. -/
  copied : ∀ m ∈ r.summarySources, ∃ x, summary.get? m.1 = some x ∧ full.follow? m.2 = some x
  /-- A report that is not on code has nothing to say on code, in either document. -/
  code : ∀ m ∈ codeSources,
    (summary.get? m.1).isSome = r.isCode ∧ (full.follow? m.2).isSome = r.isCode
  /-- The number of findings is the length of their list and the sum of their counts. -/
  count : ∃ (findings : List Json) (counts : List (Text × ℕ)),
    full.get? "findings" = some (.array findings) ∧
      summary.get? "finding_count_by_severity" =
        some (.object (counts.map fun m => (m.1, .int m.2))) ∧
      summary.get? "finding_count" = some (.int findings.length) ∧
      (counts.map (·.2)).sum = findings.length

theorem isProjection (r : ScanReport) :
    IsProjection r (Json.ofSummary r) (Json.nulled (Json.ofReport r)) where
  nodup := by
    rw [Json.names_nulled]
    cases r <;> refine ⟨Json.nodup_names_record ?_, Json.nodup_names_record ?_⟩ <;>
      simp [Json.summaryMembers, Json.reportMembers, Json.codeMembers, Json.severityMember]
  names := by
    cases r <;> simp [Json.ofSummary, Json.names_record, Json.summaryMembers, Json.severityMember,
      summarySources, isCode, commonSources, codeSources]
  copied m hm := by
    obtain ⟨x, hsummary, hreport, hnulled⟩ := exists_of_summarySources r m hm
    refine ⟨x, hsummary, ?_⟩
    rw [Json.follow?_nulled, hreport, Option.map_some, hnulled]
  code := by
    simp only [codeSources, List.forall_mem_cons, Json.follow?_nulled, Json.follow?]
    cases r with
    | file r =>
      simp only [Json.ofSummary, Json.summaryMembers, Json.ofReport, Json.reportMembers,
        Json.get?_record]
      simp [List.lookup_cons, Json.severityMember, isCode]
    | code r =>
      simp only [Json.ofSummary, Json.summaryMembers, Json.ofReport, Json.reportMembers,
        Json.codeMembers, Json.get?_record]
      simp [List.lookup_cons, isCode]
  count := by
    refine ⟨(r.base.findings.map Json.ofFinding).map Json.nulled,
      (Finding.countBySeverity r.base.findings).map fun m => (m.1.name, m.2), ?_, ?_, ?_, ?_⟩
    · have hfindings : (Json.ofReport r).get? "findings" =
          some (.array (r.base.findings.map Json.ofFinding)) := by
        cases r <;> simp only [Json.ofReport, Json.reportMembers, Json.get?_record] <;>
          simp [List.lookup_cons, base]
      rw [Json.get?_nulled, hfindings, Option.map_some, Json.nulled, Json.nulledItems_eq]
    · rw [List.map_map]
      cases r <;> simp only [Json.ofSummary, Json.summaryMembers, Json.get?_record] <;>
        simp [List.lookup_cons, base, Json.severityMember, Json.ofSeverityCounts]
    · cases r <;> simp only [Json.ofSummary, Json.summaryMembers, Json.get?_record] <;>
        simp [List.lookup_cons, base]
    · rw [List.map_map, List.length_map, List.length_map]
      exact Finding.sum_countBySeverity _

/-- A report on code with characters beyond the first plane, quotation marks and controls, and with
a finding of infinite weight. -/
def codeSample : ScanReport := .code
  { kind := .code, securityLevel := .low, riskLevel := .high, threatCount := 1, warningCount := 1,
    findings := [
      ⟨"TL-VUL-001", "eval", .high, .vulnerability, .inf false, 2, some 3, "eval(\"x\")"⟩,
      ⟨"TL-VUL-002", "exec", .medium, .vulnerability, 0.5, 1, none, "exec\t"⟩],
    vulnerabilities := ["eval"], suggestions := [],
    metadata := ⟨[0x1F600, 34, 92, 10, 0x7F], 12, "text/plain", "0123456789abcdef",
      ⟨2026, 1, 15, 10, 0, 0, 0, none⟩⟩,
    errors := [], malwareAssessment := none, advancedMetrics := none, linesOfCode := 3,
    complexityScore := 0, securityScore := 40, detectedLanguage := [0x10FFFF, 0xE9],
    obfuscationLevel := .low, detailedVulnerabilities := [], detailedSuggestions := [],
    codeQuality := none, performanceImpact := none }

end ScanReport
end ThreatScan
