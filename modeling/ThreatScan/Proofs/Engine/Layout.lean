/-
# The verdict on code does not depend on its layout

Layout is what the stripped lines of a text leave out: blank lines, indentation, blanks at the end
of a line, carriage returns.  Every part of the verdict on code is a function of the stripped lines:
the findings but for the numbers of their lines (`map_unplaced_ofLines`), the score of the signs of
obfuscation, the complexity, and what costs time.  So codes with the same stripped lines get the
same verdict (`scanCode_sameVerdict`).

The maintainability is no part of it: it takes the length of the lines into account, blanks
included.
-/
import ThreatScan.Proofs.Catalog.Layout
import ThreatScan.Proofs.Engine.Findings
import ThreatScan.Proofs.Engine.Quality

namespace ThreatScan

open Text (strippedLines trim)

/-- The finding without the number of its line. -/
def Finding.unplaced (f : Finding) : Finding := { f with lineNumber := none }

namespace Matching

variable {table : List Signature} {code code' : Text}

/-! ## 1. Findings in lines -/

/-- The finding of a signature in a stripped line. -/
def inStripped? (s : Signature) (line : Text) : Option Finding :=
  if s.pattern.count line = 0 then none
  else some (finding s (s.pattern.count line) (line.take snippetLimit) none)

/-- A line has the finding of what is left of it. -/
theorem unplaced_inLine? {s : Signature} (hs : s.pattern.IgnoresMargins) {line : Text × ℕ}
    (hline : Text.newline ∉ line.1) :
    (inLine? s s.pattern.search line).map Finding.unplaced = inStripped? s (trim line.1) := by
  have hcount : s.pattern.search.count line.1 = s.pattern.count line.1 := rfl
  rw [inLine?, inStripped?, hs.trim line.1 hline, hcount]
  split <;> rfl

/-- The findings of a signature in lines are those in the stripped lines. -/
theorem map_unplaced_inLines {s : Signature} (hs : s.pattern.IgnoresMargins) (code : Text) :
    (inLines (numberedLines code) s).map Finding.unplaced =
      (strippedLines code).filterMap (inStripped? s) := by
  have hnil : inStripped? s [] = none := if_pos hs.nil
  have hlines : (numberedLines code).map (·.1) = Text.lines code := List.zipIdx_map_fst 1 _
  calc (inLines (numberedLines code) s).map Finding.unplaced
      = (numberedLines code).filterMap fun line => inStripped? s (trim line.1) := by
        rw [inLines, List.map_filterMap]
        refine List.filterMap_congr ?_
        intro line hline
        exact unplaced_inLine? hs (newline_notMem_of_mem_numberedLines hline)
    _ = ((Text.lines code).map trim).filterMap (inStripped? s) := by
        rw [← hlines, List.map_map, List.filterMap_map]
        rfl
    _ = (strippedLines code).filterMap (inStripped? s) := by
        rw [strippedLines, List.filterMap_filter]
        refine List.filterMap_congr ?_
        intro line _
        cases line with
        | nil => exact hnil
        | cons x t => rfl

/-- **But for the numbers of their lines, the findings are those in the stripped lines.** -/
theorem map_unplaced_ofLines (hweight : NoNegativeWeight table)
    (htable : ∀ s ∈ table, s.pattern.IgnoresMargins) (code : Text) :
    (ofLines code table).findings.map Finding.unplaced =
      table.flatMap fun s => (strippedLines code).filterMap (inStripped? s) := by
  rw [ofLines_eq hweight, List.map_flatMap]
  exact List.flatMap_congr fun s hs => map_unplaced_inLines (htable s hs) code

/-! ## 2. Findings in whole contents -/

/-- The weights of the findings in a whole content follow from the counts. -/
theorem weights_ofContent (hweight : NoNegativeWeight table) (content : Text) :
    (ofContent content table).findings.map (·.weight) =
      table.filterMap fun s =>
        if s.pattern.count content = 0 then none
        else some (s.weight.times (s.pattern.count content)) := by
  rw [ofContent_eq hweight, List.map_filterMap]
  refine List.filterMap_congr ?_
  intro s _
  have hcount : s.pattern.count content = (s.pattern.occurrences content).length := rfl
  rw [inContent?, hcount]
  cases s.pattern.occurrences content <;> rfl

/-- The score of a table depends on the counts only. -/
theorem score_ofContent_congr (hweight : NoNegativeWeight table)
    (h : ∀ s ∈ table, s.pattern.count code = s.pattern.count code') :
    (ofContent code table).score = (ofContent code' table).score := by
  have hscore (m : Matching) : m.score = (m.findings.map (·.weight)).foldl (· + ·) 0 := by
    rw [List.foldl_map]
    rfl
  rw [hscore, hscore, weights_ofContent hweight, weights_ofContent hweight]
  congr 1
  refine List.filterMap_congr ?_
  intro s hs
  rw [h s hs]

end Matching

namespace Indication

variable {table : List Signature} {content content' : Text}
  (h : ∀ s ∈ table, 0 < s.pattern.count content ↔ 0 < s.pattern.count content')
include h

theorem filter_foundIn_congr : (table.filter fun s => s.pattern.foundIn content) =
    table.filter fun s => s.pattern.foundIn content' := by
  refine List.filter_congr ?_
  intro s hs
  rw [Bool.eq_iff_iff, Pattern.foundIn_iff, Pattern.foundIn_iff]
  exact h s hs

/-- What is present in a content depends on which signatures occur in it. -/
theorem present_congr : present content table = present content' table := by
  rw [present, present, filter_foundIn_congr h]

/-- And so does what code costs. -/
theorem performance_congr : performance content table = performance content' table := by
  simp only [performance, performanceScore, present_congr h, filter_foundIn_congr h]

end Indication

namespace Quality

/-! ## 3. Structure -/

theorem map_trim_solidLines (code : Text) : (solidLines code).map trim = strippedLines code := by
  rw [solidLines, strippedLines, List.filter_map]
  congr 1
  refine List.filter_congr ?_
  intro l _
  have hblank : Text.isBlankLine l = true ↔ trim l = [] :=
    Text.isBlankLine_iff.trans Text.trim_eq_nil_iff.symm
  cases h : Text.isBlankLine l <;> simp_all

/-- **Complexity is that of the stripped lines.** -/
theorem complexity_congr {code code' : Text} (h : strippedLines code = strippedLines code') :
    (metrics code).complexity = (metrics code').complexity := by
  have hkinds (l : Text) : (branches.countP fun p => 0 < p.count l) =
      branches.countP fun p => 0 < p.count (trim l) := by
    refine List.countP_congr ?_
    intro p hp
    rw [(Shipped.branches_isFramed p hp).count_trim]
  have hsum (code : Text) :
      ((solidLines code).map fun l => branches.countP fun p => 0 < p.count l).sum =
        ((strippedLines code).map fun l => branches.countP fun p => 0 < p.count l).sum := by
    rw [← map_trim_solidLines, List.map_map]
    exact congrArg (fun f => ((solidLines code).map f).sum) (funext hkinds)
  have hlength (code : Text) : (solidLines code).length = (strippedLines code).length := by
    rw [← map_trim_solidLines, List.length_map]
  simp only [complexity_eq, hsum, hlength, h]

/-- What a quality assessment says about the security of code, and how complex it is. -/
def verdict (q : CodeQuality) : ℤ × ℤ × Level :=
  (q.securityScore, q.complexityScore, q.vulnerabilityRisk)

theorem verdict_assessment_congr {m m' : Matching}
    (hcount : ∀ severity, m.count severity = m'.count severity) {s s' : Metrics}
    (hcomplexity : s.complexity = s'.complexity) :
    verdict (assessment m s) = verdict (assessment m' s') := by
  simp only [verdict, assessment, securityScore, vulnerabilityRisk, hcount, hcomplexity]

end Quality

/-! ## 4. Reports -/

/-- The reports have the same verdict, wherever in the code the findings are. -/
structure CodeReport.SameVerdict (r r' : CodeReport) : Prop where
  findings : r.findings.map Finding.unplaced = r'.findings.map Finding.unplaced
  threatCount : r.threatCount = r'.threatCount
  warningCount : r.warningCount = r'.warningCount
  securityLevel : r.securityLevel = r'.securityLevel
  securityScore : r.securityScore = r'.securityScore
  obfuscationLevel : r.obfuscationLevel = r'.obfuscationLevel
  performanceImpact : r.performanceImpact = r'.performanceImpact
  codeQuality : r.codeQuality.map Quality.verdict = r'.codeQuality.map Quality.verdict

namespace Engine

open Shipped

variable {code code' : Text}

/-- A table of rules for lines finds the same in codes with the same stripped lines. -/
theorem unplaced_eq (t : Catalog.Table)
    (htable : ∀ s ∈ Catalog.default.table t, s.pattern.IgnoresMargins)
    (h : strippedLines code = strippedLines code') :
    (Matching.ofLines code (Catalog.default.table t)).findings.map Finding.unplaced =
      (Matching.ofLines code' (Catalog.default.table t)).findings.map Finding.unplaced := by
  have hweight := Catalog.noNegativeWeight_default t
  rw [Matching.map_unplaced_ofLines hweight htable, Matching.map_unplaced_ofLines hweight htable, h]

/-- Equal counts make equal basic levels. -/
theorem basicLevel_congr {m m' : Matching} (h : ∀ severity, m.count severity = m'.count severity) :
    basicLevel m = basicLevel m' := by
  rw [basicLevel, basicLevel, h, h]

/-- The level that a quality assessment calls for is part of its verdict. -/
theorem ofQuality_congr {q q' : CodeQuality} (h : Quality.verdict q = Quality.verdict q') :
    Verdict.ofQuality q = Verdict.ofQuality q' := by
  obtain ⟨hscore, -, hrisk⟩ : q.securityScore = q'.securityScore ∧
      q.complexityScore = q'.complexityScore ∧ q.vulnerabilityRisk = q'.vulnerabilityRisk := by
    simpa [Quality.verdict] using h
  rw [Verdict.ofQuality, Verdict.ofQuality, hscore, hrisk]

theorem sameVerdict_codeReport (s : Settings) (scorer : Scorer) (usesSecondary : Option Bool)
    (clock : Timestamp) (h : strippedLines code = strippedLines code') (sampler : Sampler)
    (contentHash contentHash' : Text) (performance : PerformanceImpact) :
    ((ofSettings s Catalog.default scorer usesSecondary clock).codeReport code sampler contentHash
        performance).SameVerdict
      ((ofSettings s Catalog.default scorer usesSecondary clock).codeReport code' sampler
        contentHash' performance) := by
  have hfindings := unplaced_eq .vulnerabilities vulnerabilities_ignoreMargins h
  have hcount := Matching.count_eq_of_map Finding.unplaced (fun _ => rfl) hfindings
  have hbasic : basicLevel (Matching.ofLines code Catalog.default.vulnerabilities) =
      basicLevel (Matching.ofLines code' Catalog.default.vulnerabilities) :=
    basicLevel_congr hcount
  have hassessment := Quality.verdict_assessment_congr
    (Matching.count_eq_of_map Finding.unplaced (fun _ => rfl)
      (unplaced_eq .advancedVulnerabilities advancedVulnerabilities_ignoreMargins h))
    (Quality.complexity_congr h)
  have hobfuscation : (Matching.ofContent code Catalog.default.obfuscation).score =
      (Matching.ofContent code' Catalog.default.obfuscation).score := by
    refine Matching.score_ofContent_congr (Catalog.noNegativeWeight_default .obfuscation) ?_
    intro t ht
    rw [count_obfuscation ht, count_obfuscation ht, h]
  have hqualityOf (code : Text) := qualityOf_ofSettings s scorer usesSecondary clock code
    Catalog.noNegativeWeight_default
  constructor
  case findings => exact hfindings
  case threatCount => exact congrArg Int.ofNat (hcount .high)
  case warningCount => exact congrArg Int.ofNat (hcount .medium)
  case securityLevel =>
    simp only [codeReport, CodeFacts.toReport, codeFacts, codeDraftOf, hqualityOf]
    split_ifs
    · exact ofQuality_congr hassessment
    · exact hbasic
  case securityScore => exact congrArg (fun level => (sampler.score level).1) hbasic
  case obfuscationLevel => exact congrArg Indication.obfuscationLevel hobfuscation
  case performanceImpact => rfl
  case codeQuality =>
    simp only [codeReport, CodeFacts.toReport, codeFacts, codeDraftOf, hqualityOf]
    split_ifs
    · exact congrArg some hassessment
    · rfl

/-- **The verdict on code does not depend on its layout.**  Two codes with the same stripped lines
that can be scanned at all have reports with the same verdict. -/
theorem scanCode_sameVerdict (s : Settings) (scorer : Scorer) (usesSecondary : Option Bool)
    (clock : Timestamp) (code code' : Text) (sampler : Sampler)
    (hlines : strippedLines code = strippedLines code')
    (hsize : ¬ s.scanMaxContentBytes < (Text.encode code).length)
    (hsurrogate : ¬ ∃ c ∈ code, Text.isSurrogate c)
    (hsize' : ¬ s.scanMaxContentBytes < (Text.encode code').length)
    (hsurrogate' : ¬ ∃ c ∈ code', Text.isSurrogate c) :
    ∃ r r', ((ofSettings s Catalog.default scorer usesSecondary clock).scanCode code
        sampler).1.outcome = .ok r ∧
      ((ofSettings s Catalog.default scorer usesSecondary clock).scanCode code'
        sampler).1.outcome = .ok r' ∧ r.SameVerdict r' := by
  obtain ⟨r, hr, -⟩ := exists_scanCode_eq_ok s scorer usesSecondary clock code sampler hsize
    hsurrogate
  obtain ⟨r', hr', -⟩ := exists_scanCode_eq_ok s scorer usesSecondary clock code' sampler hsize'
    hsurrogate'
  refine ⟨r, r', hr, hr', ?_⟩
  obtain ⟨-, -, contentHash, -, -, performance, hperformance, rfl⟩ :=
    (scanCode_eq_ok_iff _ code sampler).mp hr
  obtain ⟨-, -, contentHash', -, -, performance', hperformance', rfl⟩ :=
    (scanCode_eq_ok_iff _ code' sampler).mp hr'
  have hcosts : Indication.performance code Catalog.default.performance =
      Indication.performance code' Catalog.default.performance :=
    Indication.performance_congr fun t ht => performance_occurs_iff ht hlines
  obtain rfl : performance = performance' :=
    Except.ok.inj (hperformance.symm.trans (hcosts.trans hperformance'))
  exact sameVerdict_codeReport s scorer usesSecondary clock hlines sampler _ _ _

/-- A password behind a loop, and the same with a blank line, a tab, an ideographic space and
carriage returns. -/
theorem scanCode_sameVerdict_of_layout :
    strippedLines "while (x)\npassword = 'a'" =
        strippedLines "while (x)\r\n\r\n\t\u3000password = 'a' \r\n" ∧
      ∃ r r', ((ofSettings {} Catalog.default (fun _ => .late) none default).scanCode
          "while (x)\npassword = 'a'" (.fixed 50)).1.outcome = .ok r ∧
        ((ofSettings {} Catalog.default (fun _ => .late) none default).scanCode
          "while (x)\r\n\r\n\t\u3000password = 'a' \r\n" (.fixed 50)).1.outcome = .ok r' ∧
        r.SameVerdict r' ∧
        r.findings.map (·.lineNumber) = [some 2] ∧ r'.findings.map (·.lineNumber) = [some 3] := by
  have hlines : strippedLines "while (x)\npassword = 'a'" =
      strippedLines "while (x)\r\n\r\n\t\u3000password = 'a' \r\n" := by
    decide +kernel
  obtain ⟨r, r', hr, hr', hsame⟩ := scanCode_sameVerdict {} (fun _ => .late) none default _ _
    (.fixed 50) hlines (by decide +kernel) (by decide +kernel) (by decide +kernel)
    (by decide +kernel)
  have hfindings : r.findings = _ :=
    (findings_of_scanCode hr).trans (findings_default .vulnerabilities _)
  have hfindings' : r'.findings = _ :=
    (findings_of_scanCode hr').trans (findings_default .vulnerabilities _)
  rw [Matching.inLines_eq_scanLines] at hfindings hfindings'
  refine ⟨hlines, r, r', hr, hr', hsame, ?_, ?_⟩
  · rw [hfindings]
    decide +kernel
  · rw [hfindings']
    decide +kernel

end Engine
end ThreatScan
