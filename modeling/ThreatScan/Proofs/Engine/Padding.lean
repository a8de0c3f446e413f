/-
# Text around a file

Text in front of a file and behind it takes nothing away from what the tables find in the file.  The
search may take other occurrences of a word than before, but no fewer, because its count is the
greatest number of them that do not overlap (`Pattern.count_le_of_part`).  All else in a report
without an assessment goes up with the counts: more rules with a finding, more threats and warnings,
a level that is no better, more vulnerabilities, more behavior, and more advice (`scanFile_padded`).
-/
import ThreatScan.Proofs.Catalog.Malware
import ThreatScan.Proofs.Engine.Outcome
import ThreatScan.Proofs.Report.Assembly
import ThreatScan.Proofs.Scan.Findings
import ThreatScan.Proofs.Scan.Verdict

namespace ThreatScan

/-- The finding is one of the same rule, of no fewer occurrences. -/
structure Finding.Includes (f f₀ : Finding) : Prop where
  ruleId : f.ruleId = f₀.ruleId
  label : f.label = f₀.label
  category : f.category = f₀.category
  matchCount : f₀.matchCount ≤ f.matchCount

/-- The report on a file finds all that the other one finds, and judges no better. -/
structure Report.Includes (r r₀ : Report) : Prop where
  findings : ∀ f₀ ∈ r₀.findings, ∃ f ∈ r.findings, f.Includes f₀
  threatCount : r₀.threatCount ≤ r.threatCount
  warningCount : r₀.warningCount ≤ r.warningCount
  securityLevel : r.securityLevel.securityRank ≤ r₀.securityLevel.securityRank
  vulnerabilities : r₀.vulnerabilities ⊆ r.vulnerabilities
  behaviorAnalysis : ∃ m m₀, r.advancedMetrics = some m ∧ r₀.advancedMetrics = some m₀ ∧
    m₀.behaviorAnalysis ⊆ m.behaviorAnalysis
  suggestions : r₀.suggestions <+: r.suggestions

theorem Finding.Includes.refl (f : Finding) : f.Includes f := ⟨rfl, rfl, rfl, le_rfl⟩

/-- A finding that stands for a threat says the same of more occurrences. -/
theorem FileFacts.threat?_eq {f f₀ : Finding} (h : f.Includes f₀) : threat? f = threat? f₀ := by
  rw [threat?, threat?, h.category, h.label]

/-- Findings that are included stand for no fewer threats. -/
theorem FileFacts.vulnerabilities_subset {fs fs₀ : List Finding}
    (h : ∀ f₀ ∈ fs₀, ∃ f ∈ fs, f.Includes f₀) :
    vulnerabilities fs₀ none ⊆ vulnerabilities fs none := by
  refine Text.firstOfEach_subset ?_
  simp only [assessedThreats, List.append_nil]
  intro threat hthreat
  obtain ⟨f₀, hf₀, hthreat⟩ := List.mem_filterMap.mp hthreat
  obtain ⟨f, hf, hincludes⟩ := h f₀ hf₀
  exact List.mem_filterMap.mpr ⟨f, hf, (threat?_eq hincludes).trans hthreat⟩

namespace Matching

variable {table : List Signature} {content content' : Text}

/-! ## 1. Tables -/

section Counts

variable (hweight : NoNegativeWeight table)
  (hcount : ∀ s ∈ table, s.pattern.count content ≤ s.pattern.count content')
include hweight hcount

/-- **A content with more occurrences has all the findings**, of no fewer occurrences. -/
theorem exists_includes : ∀ f₀ ∈ (ofContent content table).findings,
    ∃ f ∈ (ofContent content' table).findings, f.Includes f₀ := by
  rw [ofContent_eq hweight, ofContent_eq hweight]
  intro f₀ hf₀
  obtain ⟨s, hs, hf₀⟩ := List.mem_filterMap.mp hf₀
  have hle := hcount s hs
  obtain ⟨snippet, heq⟩ := inContent?_eq content s
  obtain ⟨snippet', heq'⟩ := inContent?_eq content' s
  rw [heq] at hf₀
  split at hf₀
  case isTrue => cases hf₀
  case isFalse hne =>
    obtain rfl := Option.some.inj hf₀
    rw [if_neg (by omega)] at heq'
    exact ⟨_, List.mem_filterMap.mpr ⟨s, hs, heq'⟩, rfl, rfl, rfl, Int.ofNat_le.mpr hle⟩

/-- No fewer signatures have a finding. -/
theorem signatureCount_le :
    (ofContent content table).signatureCount ≤ (ofContent content' table).signatureCount := by
  refine Text.length_firstOfEach_le ?_
  intro ruleId hruleId
  obtain ⟨f₀, hf₀, rfl⟩ := List.mem_map.mp hruleId
  obtain ⟨f, hf, hincludes⟩ := exists_includes hweight hcount f₀ hf₀
  exact hincludes.ruleId ▸ List.mem_map_of_mem hf

end Counts

end Matching

/-- What is present in a content is present in one where the same signatures occur. -/
theorem Indication.present_subset {table : List Signature} {content content' : Text}
    (h : ∀ s ∈ table, 0 < s.pattern.count content → 0 < s.pattern.count content') :
    present content table ⊆ present content' table := by
  intro label hlabel
  obtain ⟨s, hs, rfl⟩ := List.mem_map.mp hlabel
  obtain ⟨hs, hfound⟩ := List.mem_filter.mp hs
  have hfound' := Pattern.foundIn_iff.mpr (h s hs (Pattern.foundIn_iff.mp hfound))
  exact List.mem_map_of_mem (List.mem_filter.mpr ⟨hs, hfound'⟩)

namespace Engine

open Shipped

variable {e : Engine} {file file' : FileInput}

/-! ## 2. Reports -/

theorem includes_fileReport (hcatalog : e.catalog = Catalog.default)
    (hname : file'.name = file.name) (hcontent : file.content <:+: file'.content)
    (contentHash contentHash' : Text) :
    (e.fileReport file' contentHash' none).Includes (e.fileReport file contentHash none) := by
  obtain ⟨hmalware, hsuspicious⟩ := List.forall_mem_append.mp (words_count_le hcontent)
  have hweight : NoNegativeWeight malware := Catalog.noNegativeWeight_default .malware
  have hweight' : NoNegativeWeight suspicious := Catalog.noNegativeWeight_default .suspicious
  have hfindings : ∀ f₀ ∈ (e.fileReport file contentHash none).findings,
      ∃ f ∈ (e.fileReport file' contentHash' none).findings, f.Includes f₀ := by
    simp only [fileReport, FileFacts.toReport, fileFacts, draftOf, fileFindings, hcatalog, hname,
      List.mem_append]
    rintro f₀ ((hf₀ | hf₀) | hf₀)
    · obtain ⟨f, hf, hincludes⟩ := Matching.exists_includes hweight hmalware f₀ hf₀
      exact ⟨f, .inl (.inl hf), hincludes⟩
    · exact ⟨f₀, .inl (.inr hf₀), .refl f₀⟩
    · obtain ⟨f, hf, hincludes⟩ := Matching.exists_includes hweight' hsuspicious f₀ hf₀
      exact ⟨f, .inr hf, hincludes⟩
  have hthreats : (e.fileReport file contentHash none).threatCount ≤
      (e.fileReport file' contentHash' none).threatCount := by
    have hle := Matching.signatureCount_le hweight hmalware
    simp only [fileReport, FileFacts.toReport, fileFacts, draftOf, hcatalog, hname]
    exact add_le_add_left (Int.ofNat_le.mpr hle) _
  have hwarnings : (e.fileReport file contentHash none).warningCount ≤
      (e.fileReport file' contentHash' none).warningCount := by
    have hle := Matching.signatureCount_le hweight' hsuspicious
    simp only [fileReport, FileFacts.toReport, fileFacts, draftOf, hcatalog]
    exact Int.ofNat_le.mpr hle
  have hlevel : (e.fileReport file' contentHash' none).securityLevel.securityRank ≤
      (e.fileReport file contentHash none).securityLevel.securityRank :=
    Verdict.securityRank_ofFile_mono hthreats hwarnings
  constructor
  case findings => exact hfindings
  case threatCount => exact hthreats
  case warningCount => exact hwarnings
  case securityLevel => exact hlevel
  case vulnerabilities => exact FileFacts.vulnerabilities_subset hfindings
  case behaviorAnalysis =>
    refine ⟨_, _, rfl, rfl, ?_⟩
    simp only [draftOf, metricsOf, hcatalog]
    exact Indication.present_subset (behaviors_count_pos hcontent)
  case suggestions => exact Advice.ofFile_prefix hlevel

/-- **Text around a file does not improve its verdict.**  Without an assessment, if a file with text
around its content can be scanned, then so can the file itself, and the report on the former finds
all that the one on the latter finds and judges no better. -/
theorem scanFile_padded (e : Engine) (hcatalog : e.catalog = Catalog.default)
    (hoff : e.usesSecondary = false) (file file' : FileInput) (hname : file'.name = file.name)
    (hcontent : file.content <:+: file'.content)
    (hsize : ¬ e.maxBytes < (Text.encode file'.content).length)
    (hsurrogate : ¬ ∃ c ∈ file'.content, Text.isSurrogate c) :
    ∃ r r', (e.scanFile file).outcome = .ok r ∧ (e.scanFile file').outcome = .ok r' ∧
      r'.Includes r := by
  have hweight : e.catalog.NoNegativeWeight := hcatalog ▸ Catalog.noNegativeWeight_default
  have hlength := Text.length_encode_le_of_part hcontent
  have hnone : ¬ ∃ c ∈ file.content, Text.isSurrogate c := by
    rintro ⟨c, hc, hc'⟩
    exact hsurrogate ⟨c, hcontent.subset hc, hc'⟩
  obtain ⟨contentHash, hdigest⟩ := e.digest_of_no_surrogate hnone
  obtain ⟨contentHash', hdigest'⟩ := e.digest_of_no_surrogate hsurrogate
  exact ⟨_, _,
    scanFile_eq_ok (fileTables_eq hweight) (assessment_of_off hoff file) (by omega) hdigest,
    scanFile_eq_ok (fileTables_eq hweight) (assessment_of_off hoff file') hsize hdigest',
    includes_fileReport hcatalog hname hcontent contentHash contentHash'⟩

/-- A file with two words, and the same file between two more. -/
theorem scanFile_padded_of_words :
    ("virus eval(" : Text) <:+: "c2 virus eval(worm" ∧
      ¬ (ofSettings {} Catalog.default (fun _ => .late) (some false) default).maxBytes <
        (Text.encode "c2 virus eval(worm").length ∧
      (¬ ∃ c ∈ ("c2 virus eval(worm" : Text), Text.isSurrogate c) ∧
      ∃ r r', ((ofSettings {} Catalog.default (fun _ => .late) (some false) default).scanFile
          ⟨"notes.exe", "virus eval(", none, none⟩).outcome = .ok r ∧
        ((ofSettings {} Catalog.default (fun _ => .late) (some false) default).scanFile
          ⟨"notes.exe", "c2 virus eval(worm", none, none⟩).outcome = .ok r' ∧
        r'.Includes r := by
  have hpart : ("virus eval(" : Text) <:+: "c2 virus eval(worm" := ⟨"c2 ", "worm", rfl⟩
  have hsize : ¬ (ofSettings {} Catalog.default (fun _ => .late) (some false) default).maxBytes <
      (Text.encode "c2 virus eval(worm").length := by decide +kernel
  have hsurrogate : ¬ ∃ c ∈ ("c2 virus eval(worm" : Text), Text.isSurrogate c := by
    decide +kernel
  exact ⟨hpart, hsize, hsurrogate, scanFile_padded _ rfl rfl _ ⟨"notes.exe", _, none, none⟩ rfl
    hpart hsize hsurrogate⟩

end Engine
end ThreatScan
