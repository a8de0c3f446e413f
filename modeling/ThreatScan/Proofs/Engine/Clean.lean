/-
# Code without vulnerabilities

A quality assessment takes complexity into account, but only up to 25 of a hundred points, and a
score of 75 is one for HIGH (`le_securityScore`).  So code in which neither of the two tables of
vulnerabilities fits anywhere is reported clean, however much it branches and whether it is assessed
or not (`scanCode_clean`).
-/
import ThreatScan.Proofs.Engine.Consistency
import ThreatScan.Proofs.Engine.Growth

namespace ThreatScan
namespace Quality

/-! ## 1. What complexity can cost -/

variable {m : Matching} {s : Metrics}

/-- **Complexity takes off no more than 25 points.** -/
theorem le_securityScore {x : ℚ} (hx : IsComplexity s.complexity x) (hhigh : m.count .high = 0)
    (hmedium : m.count .medium = 0) : 75 ≤ (securityScore m s).round := by
  have hexact : ((75 : ℤ) : ℚ) ≤ exactScore m x := by
    have hexcess := excess_le hx.le
    rw [exactScore, hhigh, hmedium]
    push_cast
    linarith
  exact le_round_securityScore hx (by omega) (by omega) (by norm_num) hexact

end Quality

namespace Matching

/-! ## 2. Tables that fit nowhere -/

/-- No signature of the table fits anywhere in a line of the code. -/
def FitsNowhere (table : List Signature) (code : Text) : Prop :=
  ∀ line ∈ Text.lines code, ∀ s ∈ table, s.pattern.foundIn line = false

variable {table : List Signature} {code : Text}

theorem findings_of_fitsNowhere (htable : NoNegativeWeight table) (h : FitsNowhere table code) :
    (ofLines code table).findings = [] := by
  rw [ofLines_eq htable, List.flatMap_eq_nil_iff]
  intro s hs
  rw [← List.length_eq_zero_iff, length_inLines, List.countP_eq_zero]
  intro line hline hpos
  have hfound := Pattern.foundIn_iff.mpr (of_decide_eq_true hpos)
  rw [h line.1 (List.fst_mem_of_mem_zipIdx hline) s hs] at hfound
  cases hfound

theorem count_eq_zero {m : Matching} (h : m.findings = []) (severity : Level) :
    m.count severity = 0 := by
  rw [count, h, List.countP_nil]

end Matching

/-! ## 3. Clean reports -/

/-- The report finds nothing in the code and calls it safe. -/
structure CodeReport.IsClean (r : CodeReport) : Prop where
  securityLevel : r.securityLevel = .high
  riskLevel : r.riskLevel = .low
  findings : r.findings = []
  threatCount : r.threatCount = 0
  warningCount : r.warningCount = 0
  securityScore : 80 ≤ r.securityScore ∧ r.securityScore ≤ 100

namespace Engine

open Matching (FitsNowhere)

/-- A report without findings that calls for HIGH is clean, if its score belongs to its counts. -/
theorem isClean_of_findings {r : CodeReport} (h : r.Consistent) (hfindings : r.findings = [])
    (hlevel : r.securityLevel = .high) : r.IsClean where
  securityLevel := hlevel
  riskLevel := by
    have hmirrored := h.riskLevel
    rw [hlevel] at hmirrored
    simpa [Level.Mirrored] using hmirrored
  findings := hfindings
  threatCount := by rw [h.threatCount, hfindings]; rfl
  warningCount := by rw [h.warningCount, hfindings]; rfl
  securityScore := by
    have hscore := h.securityScore
    rw [h.threatCount, h.warningCount, hfindings] at hscore
    exact hscore

/-- **Code without vulnerabilities is reported clean, however complex it is.**  It is scanned with
or without a quality assessment; with one, the score of the assessment is at least 75.  The score of
the report is what the sampler picks from 80 to 100, and `Sampler.fixed` picks any of these. -/
theorem scanCode_clean (s : Settings) (scorer : Scorer) (usesSecondary : Option Bool)
    (clock : Timestamp) (code : Text) (sampler : Sampler)
    (hsize : ¬ s.scanMaxContentBytes < (Text.encode code).length)
    (hsurrogate : ¬ ∃ c ∈ code, Text.isSurrogate c)
    (hclean : FitsNowhere (Catalog.default.vulnerabilities ++
      Catalog.default.advancedVulnerabilities) code) :
    ∃ r, ((ofSettings s Catalog.default scorer usesSecondary clock).scanCode code
        sampler).1.outcome = .ok r ∧ r.IsClean ∧ r.securityScore = (sampler.score .high).1 ∧
      r.codeQuality.isSome = usesSecondary.getD s.secondaryEnabled ∧
        ∀ q ∈ r.codeQuality, q.vulnerabilityRisk = .low ∧ 75 ≤ q.securityScore := by
  obtain ⟨r, hr, hquality⟩ :=
    exists_scanCode_eq_ok s scorer usesSecondary clock code sampler hsize hsurrogate
  have hvulnerabilities : (Matching.ofLines code Catalog.default.vulnerabilities).findings = [] :=
    Matching.findings_of_fitsNowhere (Catalog.noNegativeWeight_default .vulnerabilities)
      fun line hline t ht => hclean line hline t (List.mem_append_left _ ht)
  have hadvanced :
      (Matching.ofLines code Catalog.default.advancedVulnerabilities).findings = [] :=
    Matching.findings_of_fitsNowhere (Catalog.noNegativeWeight_default .advancedVulnerabilities)
      fun line hline t ht => hclean line hline t (List.mem_append_right _ ht)
  -- The verdicts of the two tables agree, so it does not matter which one decides.
  have hbasic : basicLevel (Matching.ofLines code Catalog.default.vulnerabilities) = .high := by
    have hnone := Matching.count_eq_zero hvulnerabilities
    rw [basicLevel, hnone, hnone]
    rfl
  obtain ⟨x, hx⟩ := Quality.exists_isComplexity code
  have hrisk := Quality.vulnerabilityRisk_eq_low_iff.mpr
    ⟨Matching.count_eq_zero hadvanced .high, by rw [Matching.count_eq_zero hadvanced]; omega⟩
  have hscore := Quality.le_securityScore hx (Matching.count_eq_zero hadvanced .high)
    (Matching.count_eq_zero hadvanced .medium)
  obtain ⟨hoff, hon⟩ := securityLevel_eq hr
  have hlevel : r.securityLevel = .high := by
    cases hwanted : usesSecondary.getD s.secondaryEnabled with
    | false => rw [hoff hwanted, ← hbasic]; rfl
    | true =>
      rw [(hon hwanted).2]
      exact Quality.ofQuality_eq_high_iff.mpr ⟨hrisk, (by norm_num : (70 : ℤ) ≤ 75).trans hscore⟩
  have hassessed : ∀ q ∈ r.codeQuality, q.vulnerabilityRisk = .low ∧ 75 ≤ q.securityScore := by
    intro q hq
    have hwanted : usesSecondary.getD s.secondaryEnabled = true := by
      rw [← hquality, hq]
      rfl
    rw [(hon hwanted).1] at hq
    obtain rfl := Option.some.inj hq
    exact ⟨hrisk, hscore⟩
  obtain ⟨-, -, contentHash, -, -, performance, -, rfl⟩ := (scanCode_eq_ok_iff _ code sampler).mp hr
  refine ⟨_, hr, ?_, ?_, hquality, hassessed⟩
  · exact isClean_of_findings (consistent_codeReport _ code sampler contentHash performance)
      hvulnerabilities hlevel
  · exact congrArg (fun l => (sampler.score l).1) hbasic

/-- A table fits nowhere if its patterns find nothing by themselves. -/
theorem fitsNowhere_of_scan {table : List Signature} {code : Text}
    (h : ∀ line ∈ Text.lines code, ∀ t ∈ table, t.pattern.scan 0 line 0 = []) :
    FitsNowhere table code := by
  intro line hline t ht
  rw [Bool.eq_false_iff, ne_eq, Pattern.foundIn_iff, Pattern.count_eq_length_scan,
    h line hline t ht]
  exact Nat.lt_irrefl 0

/-- A line with all nine kinds of branch is as complex as code can be. -/
theorem scanCode_clean_of_branches :
    let code : Text := "if(a&&b||c){}else for(;;) while(x) switch(y) try\x7b catch(e)"
    ∃ r, ((ofSettings {} Catalog.default (fun _ => .late) none default).scanCode code
        (Sampler.ofSeed 7)).1.outcome = .ok r ∧ r.IsClean ∧
      ∃ q ∈ r.codeQuality, q.complexityScore = 100 ∧ 75 ≤ q.securityScore := by
  intro code
  obtain ⟨r, hr, hclean, -, hquality, hscore⟩ := scanCode_clean {} (fun _ => .late) none default
    code (Sampler.ofSeed 7) (by decide +kernel) (by decide +kernel)
    (fitsNowhere_of_scan (by decide +kernel))
  obtain ⟨q, hq⟩ := Option.isSome_iff_exists.mp hquality
  refine ⟨r, hr, hclean, q, hq, ?_, (hscore q hq).2⟩
  rw [((securityLevel_eq hr).2 rfl).1] at hq
  obtain rfl := Option.some.inj hq
  simp only [Quality.assessment, Quality.complexity_eq, Pattern.count_eq_length_scan]
  decide +kernel

end Engine
end ThreatScan
