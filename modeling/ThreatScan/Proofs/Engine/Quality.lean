/-
# The quality assessment heeds the findings

Where code has a quality assessment, the level of the report is that of the assessment, which is
made from a table of its own.  This module carries the findings of the report over to that table:
every injection in the report is matched by a grave vulnerability in the assessment, a different
one for each, and every line with a secret by a vulnerability on that line.  So the risk that the
assessment sees is never less than the report gives reason for
(`securityLevel_of_findings`).
-/
import ThreatScan.Proofs.Catalog.Code
import ThreatScan.Proofs.Engine.Outcome
import ThreatScan.Proofs.Scan.Findings
import ThreatScan.Proofs.Scan.Verdict
import Mathlib.Data.List.Dedup

namespace ThreatScan

/-- The number of findings by a rule for injections. -/
def CodeReport.injections (r : CodeReport) : ℕ :=
  r.findings.countP fun f => f.ruleId ∈ Shipped.injectionRules

/-- The numbers of the lines with a finding by a rule for secrets, each once. -/
def CodeReport.credentialLines (r : CodeReport) : List (Option ℤ) :=
  ((r.findings.filter fun f => f.ruleId ∈ Shipped.credentialRules).map (·.lineNumber)).dedup

namespace Engine

open Shipped

/-! ## 1. From the one table to the other -/

theorem findings_default (t : Catalog.Table) (code : Text) :
    (Matching.ofLines code (Catalog.default.table t)).findings =
      (Catalog.default.table t).flatMap (Matching.inLines (Matching.numberedLines code)) := by
  rw [Matching.ofLines_eq (Catalog.noNegativeWeight_default t)]

/-- What a signature covers in lines, it covers in the lines of a text. -/
theorem covers_numberedLines {s s' : Signature} (h : s'.Covers s) (code : Text) :
    ∀ line ∈ Matching.numberedLines code,
      0 < s.pattern.count line.1 → 0 < s'.pattern.count line.1 :=
  fun line hline => h line.1 (Matching.newline_notMem_of_mem_numberedLines hline)

/-- Every injection is matched by a grave vulnerability, each by one of its own. -/
theorem countP_injections_le (code : Text) :
    (Matching.ofLines code Catalog.default.vulnerabilities).findings.countP
        (fun f => f.ruleId ∈ injectionRules) ≤
      (Matching.ofLines code Catalog.default.advancedVulnerabilities).count .high := by
  have hfindings : (Matching.ofLines code Catalog.default.vulnerabilities).findings = _ :=
    findings_default .vulnerabilities code
  have hgrave : (Matching.ofLines code Catalog.default.advancedVulnerabilities).count .high = _ :=
    Matching.count_ofLines (Catalog.noNegativeWeight_default .advancedVulnerabilities) code .high
  have hrules (s : Signature) (count : ℕ) (snippet : Text) (line : Option ℕ) :
      decide ((Matching.finding s count snippet line).ruleId ∈ injectionRules) =
        decide (s.ruleId ∈ injectionRules) :=
    rfl
  rw [hgrave, hfindings, Matching.countP_flatMap_inLines hrules]
  refine Matching.sum_length_inLines_le (injections_covered.imp ?_)
  intro s s' h
  exact Matching.length_inLines_le (covers_numberedLines h code)

/-- The vulnerabilities of one kind are some of those of their severity. -/
theorem length_inLines_le_count {s : Signature}
    (hs : s ∈ Catalog.default.advancedVulnerabilities) (code : Text) :
    (Matching.inLines (Matching.numberedLines code) s).length ≤
      (Matching.ofLines code Catalog.default.advancedVulnerabilities).count s.severity := by
  have hcount :
      (Matching.ofLines code Catalog.default.advancedVulnerabilities).count s.severity = _ :=
    Matching.count_ofLines (Catalog.noNegativeWeight_default .advancedVulnerabilities) code
      s.severity
  rw [hcount]
  refine List.single_le_sum (fun _ _ => Nat.zero_le _) _ (List.mem_map.mpr ⟨s, ?_, rfl⟩)
  exact List.mem_filter.mpr ⟨hs, by simp⟩

/-- Every line with a secret is matched by a vulnerability on it. -/
theorem length_credentialLines_le (code : Text) :
    (((Matching.ofLines code Catalog.default.vulnerabilities).findings.filter
        fun f => f.ruleId ∈ credentialRules).map (·.lineNumber)).dedup.length ≤
      (Matching.ofLines code Catalog.default.advancedVulnerabilities).count .medium := by
  have hfindings : (Matching.ofLines code Catalog.default.vulnerabilities).findings = _ :=
    findings_default .vulnerabilities code
  obtain ⟨s', hs', hseverity, hcovers⟩ := credentials_covered
  have hsubset : ((Matching.ofLines code Catalog.default.vulnerabilities).findings.filter
        fun f => f.ruleId ∈ credentialRules).map (·.lineNumber) ⊆
      (Matching.inLines (Matching.numberedLines code) s').map (·.lineNumber) := by
    intro n hn
    obtain ⟨f, hf, rfl⟩ := List.mem_map.mp hn
    obtain ⟨hf, hrule⟩ := List.mem_filter.mp hf
    rw [hfindings] at hf
    obtain ⟨s, hs, hf⟩ := List.mem_flatMap.mp hf
    have hrule' : s.ruleId ∈ credentialRules := by
      obtain ⟨line, -, count, snippet, -, rfl⟩ := Matching.eq_finding_of_mem_inLines hf
      exact of_decide_eq_true hrule
    exact Matching.lineNumber_inLines_subset (covers_numberedLines (hcovers s hs hrule') code)
      (List.mem_map_of_mem hf)
  have hlength := (List.subperm_of_subset (List.nodup_dedup _)
    (List.Subset.trans (List.dedup_subset _) hsubset)).length_le
  rw [List.length_map] at hlength
  rw [← hseverity]
  exact hlength.trans (length_inLines_le_count hs' code)

/-! ## 2. The level -/

/-- What a report with a quality assessment takes its level from. -/
theorem securityLevel_of_codeQuality {s : Settings} {scorer : Scorer}
    {usesSecondary : Option Bool} {clock : Timestamp} {code : Text} {sampler : Sampler}
    {r : CodeReport} (h : ((ofSettings s Catalog.default scorer usesSecondary clock).scanCode code
        sampler).1.outcome = .ok r) (hquality : r.codeQuality.isSome = true) :
    r.findings = (Matching.ofLines code Catalog.default.vulnerabilities).findings ∧
      r.securityLevel = Verdict.ofQuality (Quality.assessment
        (Matching.ofLines code Catalog.default.advancedVulnerabilities)
        (Quality.metrics code)) := by
  obtain ⟨-, -, contentHash, -, -, performance, -, rfl⟩ := (scanCode_eq_ok_iff _ code sampler).mp h
  have hqualityOf := qualityOf_ofSettings s scorer usesSecondary clock code
    Catalog.noNegativeWeight_default
  refine ⟨rfl, ?_⟩
  simp only [codeReport, CodeFacts.toReport, codeFacts, codeDraftOf, hqualityOf] at hquality ⊢
  split at hquality
  case isTrue hwanted => rw [if_pos hwanted]
  case isFalse => cases hquality

/-- **With a quality assessment no injection is waved through.**  One finding by a rule for
injections keeps the level of a report from being HIGH, and two of them make it LOW; secrets on
three lines keep it from being HIGH, too. -/
theorem securityLevel_of_findings (s : Settings) (scorer : Scorer) (usesSecondary : Option Bool)
    (clock : Timestamp) (code : Text) (sampler : Sampler) (r : CodeReport)
    (h : ((ofSettings s Catalog.default scorer usesSecondary clock).scanCode code
      sampler).1.outcome = .ok r) (hquality : r.codeQuality.isSome = true) :
    (1 ≤ r.injections → r.securityLevel ≠ .high) ∧
      (2 ≤ r.injections → r.securityLevel = .low) ∧
        (3 ≤ r.credentialLines.length → r.securityLevel ≠ .high) := by
  obtain ⟨hfindings, hlevel⟩ := securityLevel_of_codeQuality h hquality
  have hgrave := countP_injections_le code
  have hsecrets := length_credentialLines_le code
  rw [hlevel, CodeReport.injections, CodeReport.credentialLines, hfindings]
  refine ⟨?_, ?_, ?_⟩
  · intro hone
    exact Verdict.ofQuality_ne_high
      (Quality.vulnerabilityRisk_ne_low (.inl (hone.trans hgrave)))
  · intro htwo
    exact Verdict.ofQuality_eq_low (Quality.vulnerabilityRisk_eq_high (htwo.trans hgrave))
  · intro hthree
    exact Verdict.ofQuality_ne_high
      (Quality.vulnerabilityRisk_ne_low (.inr (hthree.trans hsecrets)))

/-- Code with a command injection and a password on each of three lines. -/
theorem securityLevel_of_findings_of_three :
    ∃ r, ((ofSettings {} Catalog.default (fun _ => .late) none default).scanCode
        "system($_GET,password='a')\nsystem($_GET,password='b')\nsystem($_GET,password='c')"
        (.fixed 50)).1.outcome = .ok r ∧
      r.codeQuality.isSome = true ∧ r.injections = 3 ∧ r.credentialLines.length = 3 ∧
        r.securityLevel = .low := by
  obtain ⟨r, hr, hquality⟩ := exists_scanCode_eq_ok {} (fun _ => .late) none default
    "system($_GET,password='a')\nsystem($_GET,password='b')\nsystem($_GET,password='c')"
    (.fixed 50) (by decide +kernel) (by decide +kernel)
  have hfindings : r.findings = _ :=
    (securityLevel_of_codeQuality hr hquality).1.trans (findings_default .vulnerabilities _)
  rw [Matching.inLines_eq_scanLines] at hfindings
  have hinjections : r.injections = 3 := by
    rw [CodeReport.injections, hfindings]
    decide +kernel
  have hsecrets : r.credentialLines.length = 3 := by
    rw [CodeReport.credentialLines, hfindings]
    decide +kernel
  obtain ⟨-, htwo, -⟩ :=
    securityLevel_of_findings {} (fun _ => .late) none default _ _ r hr hquality
  exact ⟨r, hr, hquality, hinjections, hsecrets, htwo (by omega)⟩

end Engine
end ThreatScan
