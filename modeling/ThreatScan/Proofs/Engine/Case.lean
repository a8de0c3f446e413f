/-
# Letter case hides nothing

No class of a shipped pattern tells a letter of ASCII from its capital, so every signature occurs as
often in a recased content, in the same lines, and what a scan concludes from the counts is the
same (`scan_recased`).  The name of a file is looked at twice, for its extension and for its media
type, and both times in lower case.

What differs are the parts of a report that quote the content or depend on its very bytes: the
snippets, the digest, the entropy.
-/
import ThreatScan.Proofs.Catalog.Case
import ThreatScan.Proofs.Engine.Layout

namespace ThreatScan

open Text (Recased lowerAscii)

/-- The finding without its snippet. -/
def Finding.unquoted (f : Finding) : Finding := { f with snippet := [] }

namespace Matching

variable {table : List Signature}

/-! ## 1. Findings -/

/-- But for the snippets, the findings in a content follow from the counts. -/
theorem map_unquoted_ofContent (hweight : NoNegativeWeight table) (content : Text) :
    (ofContent content table).findings.map Finding.unquoted =
      table.filterMap fun s =>
        if s.pattern.count content = 0 then none
        else some (finding s (s.pattern.count content) [] none) := by
  rw [ofContent_eq hweight, List.map_filterMap]
  refine List.filterMap_congr ?_
  intro s _
  obtain ⟨snippet, heq⟩ := inContent?_eq content s
  rw [heq]
  split <;> rfl

theorem map_unquoted_ofLines (hweight : NoNegativeWeight table) (code : Text) :
    (ofLines code table).findings.map Finding.unquoted =
      table.flatMap fun s => (numberedLines code).filterMap fun line =>
        if s.pattern.count line.1 = 0 then none
        else some (finding s (s.pattern.count line.1) [] (some line.2)) := by
  rw [ofLines_eq hweight, List.map_flatMap]
  refine List.flatMap_congr ?_
  intro s _
  rw [inLines, List.map_filterMap]
  refine List.filterMap_congr ?_
  intro line _
  have hcount : s.pattern.search.count line.1 = s.pattern.count line.1 := rfl
  rw [inLine?, hcount]
  split <;> rfl

/-- The snippets have no part in the number of signatures. -/
theorem signatureCount_eq_of_unquoted {m m' : Matching}
    (h : m.findings.map Finding.unquoted = m'.findings.map Finding.unquoted) :
    m.signatureCount = m'.signatureCount := by
  have hrules (m : Matching) : m.findings.map (·.ruleId) =
      (m.findings.map Finding.unquoted).map (·.ruleId) := by
    rw [List.map_map]
    rfl
  rw [signatureCount, signatureCount, hrules m, hrules m', h]

section Recased

variable {t t' : Text} (hweight : NoNegativeWeight table)
  (hblind : ∀ s ∈ table, s.pattern.IsBlindTo lowerAscii) (h : Recased t t')
include hblind h

theorem count_recased : ∀ s ∈ table, s.pattern.count t = s.pattern.count t' := by
  intro s hs
  rw [← Pattern.count_map (hblind s hs) t, h, Pattern.count_map (hblind s hs)]

theorem count_pos_recased : ∀ s ∈ table, 0 < s.pattern.count t ↔ 0 < s.pattern.count t' := by
  intro s hs
  rw [count_recased hblind h s hs]

include hweight

/-- **A recased content has the same findings**, but for their snippets. -/
theorem map_unquoted_ofContent_recased :
    (ofContent t table).findings.map Finding.unquoted =
      (ofContent t' table).findings.map Finding.unquoted := by
  rw [map_unquoted_ofContent hweight, map_unquoted_ofContent hweight]
  refine List.filterMap_congr ?_
  intro s hs
  rw [count_recased hblind h s hs]

/-- **Recased code has the same findings in the same lines**, but for their snippets. -/
theorem map_unquoted_ofLines_recased :
    (ofLines t table).findings.map Finding.unquoted =
      (ofLines t' table).findings.map Finding.unquoted := by
  have hlines (t : Text) : numberedLines (t.map lowerAscii) =
      (numberedLines t).map fun line => (line.1.map lowerAscii, line.2) := by
    rw [numberedLines, numberedLines, Text.lines_map_lowerAscii, List.zipIdx_map]
    rfl
  have hsmall (t : Text) : (ofLines (t.map lowerAscii) table).findings.map Finding.unquoted =
      (ofLines t table).findings.map Finding.unquoted := by
    rw [map_unquoted_ofLines hweight, map_unquoted_ofLines hweight]
    refine List.flatMap_congr ?_
    intro s hs
    simp only [hlines, List.filterMap_map, Function.comp_def, Pattern.count_map (hblind s hs)]
  rw [← hsmall t, h, hsmall]

end Recased

/-- The extension of a recased name earns the same finding, but for the snippet. -/
theorem map_unquoted_ofExtension? {name name' : Text} (h : Recased name name')
    (extensions : List Text) :
    (ofExtension? name extensions).map Finding.unquoted =
      (ofExtension? name' extensions).map Finding.unquoted := by
  have hlower : Text.lowercase name = Text.lowercase name' := by
    rw [← Text.lowercase_map_lowerAscii, h, Text.lowercase_map_lowerAscii]
  simp only [ofExtension?, hlower, Option.map_map, Function.comp_def, Finding.unquoted]

end Matching

/-! ## 2. Reports -/

/-- The reports on files come to the same conclusions. -/
structure Report.SameConclusions (r r' : Report) : Prop where
  findings : r.findings.map Finding.unquoted = r'.findings.map Finding.unquoted
  threatCount : r.threatCount = r'.threatCount
  warningCount : r.warningCount = r'.warningCount
  securityLevel : r.securityLevel = r'.securityLevel
  metrics : ∃ m m', r.advancedMetrics = some m ∧ r'.advancedMetrics = some m' ∧
    m.obfuscationLevel = m'.obfuscationLevel ∧ m.behaviorAnalysis = m'.behaviorAnalysis
  mediaType : r.metadata.type = r'.metadata.type

/-- The reports on code come to the same conclusions. -/
structure CodeReport.SameConclusions (r r' : CodeReport) : Prop where
  findings : r.findings.map Finding.unquoted = r'.findings.map Finding.unquoted
  threatCount : r.threatCount = r'.threatCount
  warningCount : r.warningCount = r'.warningCount
  securityLevel : r.securityLevel = r'.securityLevel
  securityScore : r.securityScore = r'.securityScore
  obfuscationLevel : r.obfuscationLevel = r'.obfuscationLevel
  performanceImpact : r.performanceImpact = r'.performanceImpact

/-- The media type of a file does not depend on case. -/
theorem FileFacts.mediaType_recased {file file' : FileInput} (hname : Recased file.name file'.name)
    (hmime : file.mimeType = file'.mimeType) : mediaType file = mediaType file' := by
  have hending : MediaType.ending file.name = MediaType.ending file'.name := by
    rw [← MediaType.ending_map_lowerAscii, hname, MediaType.ending_map_lowerAscii]
  simp only [mediaType, hmime, MediaType.ofName, hending]

namespace Engine

variable {e : Engine} {file file' : FileInput} {code code' : Text}

theorem sameConclusions_fileReport (hcatalog : e.catalog = Catalog.default)
    (hname : Recased file.name file'.name) (hcontent : Recased file.content file'.content)
    (hmime : file.mimeType = file'.mimeType) (contentHash contentHash' : Text) :
    (e.fileReport file contentHash none).SameConclusions
      (e.fileReport file' contentHash' none) := by
  have hfindings (t : Catalog.Table) :
      (Matching.ofContent file.content (Catalog.default.table t)).findings.map Finding.unquoted =
        (Matching.ofContent file'.content (Catalog.default.table t)).findings.map
          Finding.unquoted :=
    Matching.map_unquoted_ofContent_recased (Catalog.noNegativeWeight_default t)
      (Catalog.isBlindTo_lowerAscii t) hcontent
  have hmalware := hfindings .malware
  have hsuspicious := hfindings .suspicious
  have hextension :=
    Matching.map_unquoted_ofExtension? hname Catalog.default.suspiciousExtensions
  have hthreats : (e.fileReport file contentHash none).threatCount =
      (e.fileReport file' contentHash' none).threatCount := by
    have hlength (x : Option Finding) :
        x.toList.length = (x.map Finding.unquoted).toList.length := by
      rw [Option.toList_map, List.length_map]
    simp only [fileReport, FileFacts.toReport, fileFacts, draftOf, hcatalog]
    rw [hlength, hlength (Matching.ofExtension? file'.name _), hextension]
    exact congrArg (fun n : ℕ => (n : ℤ) + _) (Matching.signatureCount_eq_of_unquoted hmalware)
  have hwarnings : (e.fileReport file contentHash none).warningCount =
      (e.fileReport file' contentHash' none).warningCount := by
    simp only [fileReport, FileFacts.toReport, fileFacts, draftOf, hcatalog]
    exact congrArg Int.ofNat (Matching.signatureCount_eq_of_unquoted hsuspicious)
  constructor
  case findings =>
    simp only [fileReport, FileFacts.toReport, fileFacts, draftOf, fileFindings, hcatalog,
      List.map_append, ← Option.toList_map, hextension]
    exact congrArg₂ (fun xs ys => xs ++ _ ++ ys) hmalware hsuspicious
  case threatCount => exact hthreats
  case warningCount => exact hwarnings
  case securityLevel => exact congrArg₂ Verdict.ofFile hthreats hwarnings
  case metrics =>
    refine ⟨_, _, rfl, rfl, ?_, ?_⟩
    · simp only [draftOf, metricsOf, hcatalog]
      exact congrArg Indication.obfuscationLevel (Matching.score_ofContent_congr
        (Catalog.noNegativeWeight_default .obfuscation)
        (Matching.count_recased (Catalog.isBlindTo_lowerAscii .obfuscation) hcontent))
    · simp only [draftOf, metricsOf, hcatalog]
      exact Indication.present_congr
        (Matching.count_pos_recased (Catalog.isBlindTo_lowerAscii .behaviors) hcontent)
  case mediaType => exact FileFacts.mediaType_recased hname hmime

theorem sameConclusions_codeReport (hcatalog : e.catalog = Catalog.default)
    (hoff : e.usesSecondary = false) (hcode : Recased code code') (sampler : Sampler)
    (contentHash contentHash' : Text) (performance : PerformanceImpact) :
    (e.codeReport code sampler contentHash performance).SameConclusions
      (e.codeReport code' sampler contentHash' performance) := by
  have hfindings : (e.vulnerabilitiesOf code).findings.map Finding.unquoted =
      (e.vulnerabilitiesOf code').findings.map Finding.unquoted := by
    rw [vulnerabilitiesOf, vulnerabilitiesOf, hcatalog]
    exact Matching.map_unquoted_ofLines_recased (Catalog.noNegativeWeight_default .vulnerabilities)
      (Catalog.isBlindTo_lowerAscii .vulnerabilities) hcode
  have hcount := Matching.count_eq_of_map Finding.unquoted (fun _ => rfl) hfindings
  have hbasic := basicLevel_congr hcount
  have hquality (code : Text) : e.qualityOf code = (none, []) := by
    rw [qualityOf, hoff]
    rfl
  constructor
  case findings => exact hfindings
  case threatCount => exact congrArg Int.ofNat (hcount .high)
  case warningCount => exact congrArg Int.ofNat (hcount .medium)
  case securityLevel =>
    simp only [codeReport, CodeFacts.toReport, codeFacts, codeDraftOf, hquality]
    exact hbasic
  case securityScore => exact congrArg (fun level => (sampler.score level).1) hbasic
  case obfuscationLevel =>
    simp only [codeReport, CodeFacts.toReport, codeFacts, codeDraftOf, hcatalog]
    exact congrArg Indication.obfuscationLevel (Matching.score_ofContent_congr
      (Catalog.noNegativeWeight_default .obfuscation)
      (Matching.count_recased (Catalog.isBlindTo_lowerAscii .obfuscation) hcode))
  case performanceImpact => rfl

/-- A recased content can be scanned as well. -/
theorem exists_digest_recased {label content content' contentHash : Text}
    (h : Recased content content') (hsize : e.checkSize label content = .ok ())
    (hdigest : e.digest content = .ok contentHash) :
    ¬ e.maxBytes < (Text.encode content').length ∧
      ∃ contentHash', e.digest content' = .ok contentHash' := by
  have hlength : (Text.encode content).length = (Text.encode content').length := by
    rw [← Text.length_encode_map_lowerAscii, h, Text.length_encode_map_lowerAscii]
  have hsurrogate : ¬ ∃ c ∈ content', Text.isSurrogate c := by
    rw [← Text.exists_isSurrogate_map_lowerAscii, ← h, Text.exists_isSurrogate_map_lowerAscii]
    exact no_surrogate_of_digest hdigest
  rw [checkSize_eq_ok_iff, hlength] at hsize
  exact ⟨hsize, e.digest_of_no_surrogate hsurrogate⟩

/-- **Letter case hides nothing.**  Without an assessment, if one of two recased files or codes has
a report, then so has the other one, and both reports come to the same conclusions. -/
theorem scan_recased (e : Engine) (hcatalog : e.catalog = Catalog.default)
    (hoff : e.usesSecondary = false) (file file' : FileInput)
    (hname : Recased file.name file'.name) (hcontent : Recased file.content file'.content)
    (hmime : file.mimeType = file'.mimeType) (code code' : Text) (hcode : Recased code code')
    (sampler : Sampler) :
    (∀ r, (e.scanFile file).outcome = .ok r →
      ∃ r', (e.scanFile file').outcome = .ok r' ∧ r.SameConclusions r') ∧
    ∀ r, (e.scanCode code sampler).1.outcome = .ok r →
      ∃ r', (e.scanCode code' sampler).1.outcome = .ok r' ∧ r.SameConclusions r' := by
  have hweight : e.catalog.NoNegativeWeight := hcatalog ▸ Catalog.noNegativeWeight_default
  constructor
  · intro r hr
    obtain ⟨hsize, -, contentHash, hdigest, -⟩ := (e.scanFile_eq_ok_iff file).mp hr
    obtain ⟨hsize', contentHash', hdigest'⟩ := exists_digest_recased hcontent hsize hdigest
    have hfile := scanFile_eq_ok (fileTables_eq hweight) (assessment_of_off hoff file)
      (checkSize_eq_ok_iff.mp hsize) hdigest
    obtain rfl := Except.ok.inj (hfile.symm.trans hr)
    exact ⟨_, scanFile_eq_ok (fileTables_eq hweight) (assessment_of_off hoff file') hsize' hdigest',
      sameConclusions_fileReport hcatalog hname hcontent hmime contentHash contentHash'⟩
  · intro r hr
    obtain ⟨hsize, -, contentHash, hdigest, -, performance, hperformance, rfl⟩ :=
      (scanCode_eq_ok_iff e code sampler).mp hr
    obtain ⟨hsize', contentHash', hdigest'⟩ := exists_digest_recased hcode hsize hdigest
    have hperformance' : Indication.performance code' e.catalog.performance = .ok performance := by
      rw [← hperformance, hcatalog]
      exact (Indication.performance_congr
        (Matching.count_pos_recased (Catalog.isBlindTo_lowerAscii .performance) hcode)).symm
    refine ⟨_, (scanCode_eq_ok_iff e code' sampler).mpr ⟨checkSize_eq_ok_iff.mpr hsize',
      Matching.refused_ofLines (hweight .vulnerabilities), contentHash', hdigest',
      Matching.refused_ofContent (hweight .obfuscation), performance, hperformance', rfl⟩, ?_⟩
    exact sameConclusions_codeReport hcatalog hoff hcode sampler contentHash contentHash'
      performance

/-- A script and a line of code, and the same in capitals. -/
theorem scan_recased_of_capitals :
    Recased "run.bat" "RUN.Bat" ∧ Recased "eval(virus)" "EVAL(Virus)" ∧
      Recased "password = 'a'" "PassWord = 'A'" ∧
      (∃ r r', ((ofSettings {} Catalog.default (fun _ => .late) (some false) default).scanFile
          ⟨"run.bat", "eval(virus)", none, none⟩).outcome = .ok r ∧
        ((ofSettings {} Catalog.default (fun _ => .late) (some false) default).scanFile
          ⟨"RUN.Bat", "EVAL(Virus)", none, none⟩).outcome = .ok r' ∧ r.SameConclusions r') ∧
      ∃ r r', ((ofSettings {} Catalog.default (fun _ => .late) (some false) default).scanCode
          "password = 'a'" (.fixed 50)).1.outcome = .ok r ∧
        ((ofSettings {} Catalog.default (fun _ => .late) (some false) default).scanCode
          "PassWord = 'A'" (.fixed 50)).1.outcome = .ok r' ∧ r.SameConclusions r' := by
  have hname : Recased "run.bat" "RUN.Bat" := by decide +kernel
  have hcontent : Recased "eval(virus)" "EVAL(Virus)" := by decide +kernel
  have hcode : Recased "password = 'a'" "PassWord = 'A'" := by decide +kernel
  obtain ⟨hfiles, hcodes⟩ := scan_recased
    (ofSettings {} Catalog.default (fun _ => .late) (some false) default) rfl rfl
    ⟨"run.bat", "eval(virus)", none, none⟩ ⟨"RUN.Bat", "EVAL(Virus)", none, none⟩ hname hcontent
    rfl "password = 'a'" "PassWord = 'A'" hcode (.fixed 50)
  obtain ⟨r, hr, -⟩ := exists_scanFile_eq_ok {} (fun _ => .late) (some false) default
    ⟨"run.bat", "eval(virus)", none, none⟩ Catalog.noNegativeWeight_default
    (by constructor <;> simp) (by constructor <;> simp) (by decide +kernel) (by decide +kernel)
  obtain ⟨s, hs, -⟩ := exists_scanCode_eq_ok {} (fun _ => .late) (some false) default
    "password = 'a'" (.fixed 50) (by decide +kernel) (by decide +kernel)
  obtain ⟨r', hr', hsame⟩ := hfiles r hr
  obtain ⟨s', hs', hsame'⟩ := hcodes s hs
  exact ⟨hname, hcontent, hcode, ⟨r, r', hr, hr', hsame⟩, s, s', hs, hs', hsame'⟩

end Engine
end ThreatScan
