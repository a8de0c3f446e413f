/-
# A line is added to code

A line behind code leaves the findings in the code as they are and adds its own, so no count of
findings falls (`count_added`).  Without a quality assessment the level follows the counts and does
not get better.  With one it may: the score takes the complexity into account, which is an average
over the lines, and a simple line with a vulnerability of MEDIUM severity can take more complexity
away than it costs (`securityLevel_better`).  `securityLevel_added` says what remains true.
-/
import ThreatScan.Proofs.Assess.Growth
import ThreatScan.Proofs.Engine.Quality

namespace ThreatScan
namespace Matching

/-! ## 1. The findings of a line -/

variable {table : List Signature} {severity : Level}

theorem numberedLines_added {code line : Text} (hline : Text.newline ∉ line) :
    numberedLines (code ++ Text.newline :: line) =
      numberedLines code ++ [(line, (Text.lines code).length + 1)] := by
  have hone : numberedLines line = [(line, 1)] := by
    rw [numberedLines, Text.lines_of_notMem hline]
    rfl
  rw [numberedLines_append, hone, Nat.add_comm (Text.lines code).length]
  rfl

/-- **An added line adds one finding for every signature that occurs in it.** -/
theorem count_added (h : NoNegativeWeight table) {code line : Text}
    (hline : Text.newline ∉ line) :
    (ofLines (code ++ Text.newline :: line) table).count severity =
      (ofLines code table).count severity +
        (table.filter fun s => s.severity = severity).countP fun s => 0 < s.pattern.count line := by
  rw [count_ofLines h, count_ofLines h, numberedLines_added hline]
  induction table.filter fun s => s.severity = severity with
  | nil => rfl
  | cons s ss ih =>
    simp only [List.map_cons, List.sum_cons, List.countP_cons, ih]
    have hone : (inLines (numberedLines code ++ [(line, (Text.lines code).length + 1)]) s).length =
        (inLines (numberedLines code) s).length +
          if decide (0 < s.pattern.count line) = true then 1 else 0 := by
      rw [length_inLines, length_inLines, List.countP_append, List.countP_singleton]
    omega

/-- What occurs in an added line raises the count of its severity. -/
theorem count_lt_added (h : NoNegativeWeight table) (code : Text) {line : Text}
    (hline : Text.newline ∉ line) {s : Signature} (hs : s ∈ table)
    (hpos : 0 < s.pattern.count line) :
    (ofLines code table).count s.severity <
      (ofLines (code ++ Text.newline :: line) table).count s.severity := by
  rw [count_added h hline]
  refine Nat.lt_add_of_pos_right (List.countP_pos_iff.mpr ⟨s, ?_, decide_eq_true hpos⟩)
  exact List.mem_filter.mpr ⟨hs, by simp⟩

theorem count_le_added (h : NoNegativeWeight table) (code : Text) {line : Text}
    (hline : Text.newline ∉ line) :
    (ofLines code table).count severity ≤
      (ofLines (code ++ Text.newline :: line) table).count severity := by
  rw [count_added h hline]
  exact Nat.le_add_right _ _

end Matching

namespace Shipped

/-! ## 2. Which rules an added line brings in -/

/-- What a line holds of the first table, it holds of the second. -/
theorem exists_advanced {line : Text} (hline : Text.newline ∉ line)
    (h : ∃ s ∈ vulnerabilities ++ advancedVulnerabilities, 0 < s.pattern.count line) :
    ∃ s ∈ advancedVulnerabilities, 0 < s.pattern.count line := by
  obtain ⟨s, hs, hpos⟩ := h
  rcases List.mem_append.mp hs with hs | hs
  · have hrules :
        ∀ s ∈ vulnerabilities, s.ruleId ∈ injectionRules ∨ s.ruleId ∈ credentialRules := by
      decide +kernel
    rcases hrules s hs with hrule | hrule
    · have hmem : s ∈ vulnerabilities.filter fun s => s.ruleId ∈ injectionRules :=
        List.mem_filter.mpr ⟨hs, decide_eq_true hrule⟩
      obtain ⟨i, hi, hget⟩ := List.mem_iff_getElem.mp hmem
      have hi' := hi.trans_eq injections_covered.length_eq
      have hcovers := injections_covered.get hi hi'
      rw [List.get_eq_getElem, List.get_eq_getElem, hget] at hcovers
      exact ⟨_, (List.mem_filter.mp (List.getElem_mem hi')).1, hcovers line hline hpos⟩
    · obtain ⟨s', hs', -, hcovers⟩ := credentials_covered
      exact ⟨s', hs', hcovers s hs hrule line hline hpos⟩
  · exact ⟨s, hs, hpos⟩

theorem extends_added {line : Text} (code : Text) (hline : Text.newline ∉ line)
    (h : ∃ s ∈ vulnerabilities ++ advancedVulnerabilities, 0 < s.pattern.count line) :
    Quality.Extends (Matching.ofLines (code ++ Text.newline :: line) advancedVulnerabilities)
      (Matching.ofLines code advancedVulnerabilities) := by
  have hweight : NoNegativeWeight advancedVulnerabilities :=
    Catalog.noNegativeWeight_default .advancedVulnerabilities
  obtain ⟨s, hs, hpos⟩ := exists_advanced hline h
  have hseverity : ∀ s ∈ advancedVulnerabilities, s.severity = .high ∨ s.severity = .medium := by
    decide +kernel
  have hlt := Matching.count_lt_added hweight code hline hs hpos
  refine ⟨Matching.count_le_added hweight code hline,
    Matching.count_le_added hweight code hline, ?_⟩
  rcases hseverity s hs with hs | hs
  · exact .inl (hs ▸ hlt)
  · exact .inr (hs ▸ hlt)

end Shipped

namespace Engine

open Shipped

variable {s : Settings} {scorer : Scorer} {usesSecondary : Option Bool} {clock : Timestamp}

/-! ## 3. The level -/

/-- What the level and the assessment of a report are made from. -/
theorem securityLevel_eq {code : Text} {sampler : Sampler} {r : CodeReport}
    (h : ((ofSettings s Catalog.default scorer usesSecondary clock).scanCode code
      sampler).1.outcome = .ok r) :
    (usesSecondary.getD s.secondaryEnabled = false →
        r.securityLevel = basicLevel (Matching.ofLines code vulnerabilities)) ∧
      (usesSecondary.getD s.secondaryEnabled = true →
        r.codeQuality = some (Quality.assessment (Matching.ofLines code advancedVulnerabilities)
            (Quality.metrics code)) ∧
          r.securityLevel = Verdict.ofQuality (Quality.assessment
            (Matching.ofLines code advancedVulnerabilities) (Quality.metrics code))) := by
  obtain ⟨-, -, contentHash, -, -, performance, -, rfl⟩ := (scanCode_eq_ok_iff _ code sampler).mp h
  have hquality := qualityOf_ofSettings s scorer usesSecondary clock code
    Catalog.noNegativeWeight_default
  have hwanted : (ofSettings s Catalog.default scorer usesSecondary clock).usesSecondary =
    usesSecondary.getD s.secondaryEnabled := rfl
  simp only [codeReport, CodeFacts.toReport, codeFacts, codeDraftOf, hquality, hwanted]
  constructor
  · intro hoff
    rw [hoff]
    rfl
  · intro hon
    rw [hon]
    exact ⟨rfl, rfl⟩

theorem securityRank_basicLevel_le {m m' : Matching} (hhigh : m.count .high ≤ m'.count .high)
    (hmedium : m.count .medium ≤ m'.count .medium) :
    (basicLevel m').securityRank ≤ (basicLevel m).securityRank := by
  unfold basicLevel Verdict.ofCode
  split_ifs <;> simp [Level.securityRank] <;> omega

/-- **What a line with a vulnerability does to the level of code.**  Without a quality assessment
the level does not get better.  With one the risk does not get smaller, and the level gets better
only if the line has no grave vulnerability and takes twenty off the complexity; even then it does
not rise from LOW to HIGH. -/
theorem securityLevel_added (s : Settings) (scorer : Scorer) (usesSecondary : Option Bool)
    (clock : Timestamp) (code line : Text) (sampler sampler' : Sampler) (r r' : CodeReport)
    (hline : Text.newline ∉ line)
    (hpos : ∃ t ∈ Catalog.default.vulnerabilities ++ Catalog.default.advancedVulnerabilities,
      0 < t.pattern.count line)
    (h : ((ofSettings s Catalog.default scorer usesSecondary clock).scanCode code
      sampler).1.outcome = .ok r)
    (h' : ((ofSettings s Catalog.default scorer usesSecondary clock).scanCode
      (code ++ Text.newline :: line) sampler').1.outcome = .ok r') :
    (usesSecondary.getD s.secondaryEnabled = false →
        r'.securityLevel.securityRank ≤ r.securityLevel.securityRank) ∧
      (usesSecondary.getD s.secondaryEnabled = true →
        ∃ q ∈ r.codeQuality, ∃ q' ∈ r'.codeQuality,
          q.vulnerabilityRisk.securityRank ≤ q'.vulnerabilityRisk.securityRank ∧
            ((∃ t ∈ Catalog.default.advancedVulnerabilities,
                t.severity = .high ∧ 0 < t.pattern.count line) ∨
              q.complexityScore < q'.complexityScore + 20 →
                r'.securityLevel.securityRank ≤ r.securityLevel.securityRank) ∧
              ¬ (r.securityLevel = .low ∧ r'.securityLevel = .high)) := by
  obtain ⟨hoff, hon⟩ := securityLevel_eq h
  obtain ⟨hoff', hon'⟩ := securityLevel_eq h'
  have hweight : NoNegativeWeight vulnerabilities :=
    Catalog.noNegativeWeight_default .vulnerabilities
  constructor
  · intro hwanted
    rw [hoff hwanted, hoff' hwanted]
    exact securityRank_basicLevel_le (Matching.count_le_added hweight code hline)
      (Matching.count_le_added hweight code hline)
  · intro hwanted
    obtain ⟨hquality, hlevel⟩ := hon hwanted
    obtain ⟨hquality', hlevel'⟩ := hon' hwanted
    have hm := extends_added code hline hpos
    refine ⟨_, hquality, _, hquality', Quality.vulnerabilityRisk_mono hm.high hm.medium, ?_, ?_⟩
    · rw [hlevel, hlevel']
      rintro (⟨t, ht, hgrave, hone⟩ | hcomplexity)
      · refine Quality.securityRank_ofQuality_le hm _ _ (.inl ?_)
        exact hgrave ▸ Matching.count_lt_added
          (Catalog.noNegativeWeight_default .advancedVulnerabilities) code hline ht hone
      · exact Quality.securityRank_ofQuality_le hm _ _ (.inr hcomplexity)
    · rw [hlevel, hlevel']
      exact Quality.not_low_and_high hm _ _

/-- An injection is added to code that has none, and the level falls. -/
theorem securityLevel_added_of_injection :
    ∃ r r', ((ofSettings {} Catalog.default (fun _ => .late) none default).scanCode
        "import os" (.fixed 50)).1.outcome = .ok r ∧
      ((ofSettings {} Catalog.default (fun _ => .late) none default).scanCode
        (("import os" : Text) ++ Text.newline :: "system($_GET)") (.fixed 50)).1.outcome = .ok r' ∧
      r'.securityLevel.securityRank ≤ r.securityLevel.securityRank := by
  obtain ⟨r, hr, -⟩ := exists_scanCode_eq_ok {} (fun _ => .late) none default "import os"
    (.fixed 50) (by decide +kernel) (by decide +kernel)
  obtain ⟨r', hr', -⟩ := exists_scanCode_eq_ok {} (fun _ => .late) none default
    (("import os" : Text) ++ Text.newline :: "system($_GET)") (.fixed 50) (by decide +kernel)
    (by decide +kernel)
  have hpos : 0 < advancedVulnerabilities[2].pattern.count "system($_GET)" := by
    rw [Pattern.count_eq_length_scan]
    decide +kernel
  have hmem : advancedVulnerabilities[2] ∈ Catalog.default.advancedVulnerabilities :=
    List.getElem_mem _
  obtain ⟨-, hon⟩ := securityLevel_added {} (fun _ => .late) none default "import os"
    "system($_GET)" (.fixed 50) (.fixed 50) r r' (by decide)
    ⟨_, List.mem_append_right _ hmem, hpos⟩ hr hr'
  obtain ⟨q, -, q', -, -, hlevel, -⟩ := hon rfl
  exact ⟨r, r', hr, hr', hlevel (.inl ⟨_, hmem, rfl, hpos⟩)⟩

/-- A second call of `eval`, on a line of its own, makes the level better: it costs ten of the
score, and the complexity falls from 100 to 50. -/
theorem securityLevel_better :
    Text.newline ∉ ("eval(y)" : Text) ∧
      (∃ t ∈ Catalog.default.vulnerabilities ++ Catalog.default.advancedVulnerabilities,
        0 < t.pattern.count "eval(y)") ∧
      ∃ r r', ((ofSettings {} Catalog.default (fun _ => .late) none default).scanCode
          "if(a&&b) eval(x)" (.fixed 50)).1.outcome = .ok r ∧
        ((ofSettings {} Catalog.default (fun _ => .late) none default).scanCode
          (("if(a&&b) eval(x)" : Text) ++ Text.newline :: "eval(y)") (.fixed 50)).1.outcome =
            .ok r' ∧
        r.securityLevel = .medium ∧ r'.securityLevel = .high := by
  refine ⟨by decide, ⟨advancedVulnerabilities[4], ?_, ?_⟩, ?_⟩
  · exact List.mem_append_right _ (List.getElem_mem _)
  · rw [Pattern.count_eq_length_scan]
    decide +kernel
  · obtain ⟨r, hr, -⟩ := exists_scanCode_eq_ok {} (fun _ => .late) none default
      "if(a&&b) eval(x)" (.fixed 50) (by decide +kernel) (by decide +kernel)
    obtain ⟨r', hr', -⟩ := exists_scanCode_eq_ok {} (fun _ => .late) none default
      (("if(a&&b) eval(x)" : Text) ++ Text.newline :: "eval(y)") (.fixed 50) (by decide +kernel)
      (by decide +kernel)
    refine ⟨r, r', hr, hr', ?_, ?_⟩
    · rw [((securityLevel_eq hr).2 rfl).2]
      simp only [Verdict.ofQuality, Quality.assessment, Quality.securityScore,
        Quality.complexity_eq, Matching.ofLines, Matching.inLines_eq_scanLines,
        Pattern.count_eq_length_scan]
      decide +kernel
    · rw [((securityLevel_eq hr').2 rfl).2]
      simp only [Verdict.ofQuality, Quality.assessment, Quality.securityScore,
        Quality.complexity_eq, Matching.ofLines, Matching.inLines_eq_scanLines,
        Pattern.count_eq_length_scan]
      decide +kernel

end Engine
end ThreatScan
