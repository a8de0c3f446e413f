/-
# The two tables for malware agree

A file is searched for malware twice: for single words, whose findings the report counts, and for
weighted evidence, which the assessment adds up.  The two searches use tables of their own.

What the first one finds, the second one finds as well (`scanFile_agrees`): each word for malware is
an alternative of a signature of evidence, and the words for concealment that the first table warns
of are alternatives of signs.  A search does not tell which alternatives it has taken, and another
one may well cover a word; but it never comes out empty where an alternative occurs
(`Refines.count_pos`), and an empty search is all that could make a label missing.
-/
import ThreatScan.Proofs.Assess.Evidence
import ThreatScan.Proofs.Engine.Accounts
import ThreatScan.Proofs.Pattern.Alternatives

namespace ThreatScan

open Binary64

/-! ## 1. Counterparts -/

namespace Shipped

/-- The rules for malware, and the label of the evidence that their words belong to. -/
def evidenceOf : List (List Text × Text) := [
  (["TL-MAL-001", "TL-MAL-002", "TL-MAL-003"], "Process injection detected"),
  (["TL-MAL-004", "TL-MAL-005"], "Keylogging capability detected"),
  (["TL-MAL-006", "TL-MAL-007"], "Cryptocurrency mining/theft detected")]

/-- The rules for suspicious words that are signs of concealment, and the labels of these. -/
def signOf : List (List Text × Text) := [
  (["TL-SUS-001"], "Base64 encoding detected"),
  (["TL-SUS-002"], "Dynamic code execution")]

/-- Each signature of the first table with one of the ids is an alternative of a signature of the
second one with the label. -/
def IsCoveredBy (table table' : List Signature) (labels : List (List Text × Text)) : Prop :=
  ∀ s ∈ table, ∀ l ∈ labels, s.ruleId ∈ l.1 →
    ∃ s' ∈ table', s'.label = l.2 ∧ s.pattern ∈ s'.pattern.alternatives

theorem malware_covered : IsCoveredBy malware advancedMalware evidenceOf := by
  unfold IsCoveredBy
  decide

theorem suspicious_covered : IsCoveredBy suspicious anomalies signOf := by
  unfold IsCoveredBy
  decide

/-- No word for malware is without a label. -/
theorem exists_evidenceOf : ∀ s ∈ malware, ∃ l ∈ evidenceOf, s.ruleId ∈ l.1 := by decide

/-- These labels are for the ids of one table only. -/
theorem evidenceOf_apart : ∀ l ∈ evidenceOf,
    Text.ofString "TL-EXT-001" ∉ l.1 ∧ ∀ s ∈ suspicious, s.ruleId ∉ l.1 := by decide

theorem signOf_apart : ∀ l ∈ signOf,
    Text.ofString "TL-EXT-001" ∉ l.1 ∧ ∀ s ∈ malware, s.ruleId ∉ l.1 := by decide

theorem ruleId_ne_extension : ∀ s ∈ malware ++ suspicious,
    s.ruleId ≠ Text.ofString "TL-EXT-001" := by decide

theorem category_suspicious : ∀ s ∈ suspicious, s.category ≠ .malware := by decide

/-- One occurrence of any evidence is a positive share. -/
theorem share_advancedMalware : ∀ s ∈ advancedMalware,
    less 0 (least (s.weight * 1 / 3) 1) = true := by decide +kernel

/-- A signature that occurs has a counterpart that occurs. -/
theorem IsCoveredBy.exists_count_pos {table table' : List Signature}
    {labels : List (List Text × Text)} (h : IsCoveredBy table table' labels) {s : Signature}
    (hs : s ∈ table) {content : Text} (hpos : 0 < s.pattern.count content) {l : List Text × Text}
    (hl : l ∈ labels) (hid : s.ruleId ∈ l.1) :
    ∃ s' ∈ table', 0 < s'.pattern.count content ∧ s'.label = l.2 := by
  obtain ⟨s', hs', hlabel, halternative⟩ := h s hs l hl hid
  exact ⟨s', hs', (Pattern.refines_of_mem_alternatives halternative).count_pos hpos, hlabel⟩

end Shipped

/-- The findings of a report on a file have their counterparts in an assessment. -/
structure Report.Agrees (r : Report) (a : MalwareAssessment) : Prop where
  malware : ∀ f ∈ r.findings, ∀ l ∈ Shipped.evidenceOf, f.ruleId ∈ l.1 → l.2 ∈ a.threats
  /-- No rule for malware is left out. -/
  ruleIds : ∀ f ∈ r.findings, f.category = .malware → ∃ l ∈ Shipped.evidenceOf, f.ruleId ∈ l.1
  extension : ∀ f ∈ r.findings, f.ruleId = Text.ofString "TL-EXT-001" →
    Text.ofString "Suspicious executable file type" ∈ a.threats
  signs : ∀ f ∈ r.findings, ∀ l ∈ Shipped.signOf, f.ruleId ∈ l.1 →
    l.2 ∈ a.anomalyDetection.suspiciousPatterns
  score : 0 < r.threatCount - Verdict.maliciousBonus a → less 0 a.patternScore = true

/-! ## 2. Findings -/

namespace Matching

variable {table : List Signature} {content name : Text}

/-- A finding of a search in a content is of a signature of the table that occurs there. -/
theorem exists_of_mem_ofContent {f : Finding} (h : f ∈ (ofContent content table).findings) :
    ∃ s ∈ table, 0 < s.pattern.count content ∧ f.ruleId = s.ruleId ∧ f.category = s.category := by
  obtain ⟨hmem, -⟩ := mem_of_mem_ofFindings h
  obtain ⟨s, hs, hf⟩ := List.mem_filterMap.mp hmem
  obtain ⟨hpos, snippet, rfl⟩ := exists_of_inContent? hf
  exact ⟨s, hs, hpos, rfl, rfl⟩

/-- An extension that earns a finding is one of a program. -/
theorem isExecutable_of_ofExtension?
    (h : (ofExtension? name Shipped.suspiciousExtensions).isSome = true) :
    MalwareAnalyzer.isExecutable Shipped.executableExtensions name = true := by
  obtain ⟨x, hx, hsuffix⟩ := isSome_ofExtension?.mp h
  refine List.any_eq_true.mpr ⟨x, List.mem_append_left _ hx, ?_⟩
  exact List.isSuffixOf_iff_suffix.mpr hsuffix

end Matching

namespace MalwareAnalyzer

variable {m : MalwareAnalyzer} {content name : Text} {answer : Except Text ScorerOutput}
  {label : Text}

/-- The evidence that occurs is among the threats of an assessment. -/
theorem mem_threats_of_count_pos (h : NoNegativeWeight m.catalog.advancedMalware)
    (hoccurs : ∃ s ∈ m.catalog.advancedMalware, 0 < s.pattern.count content ∧ s.label = label) :
    label ∈ (m.assess content name answer).threats :=
  List.mem_append_left _ (List.mem_append_left _ ((Matching.mem_labels_ofContent h).mpr hoccurs))

/-- The extension of a program is among them, too. -/
theorem mem_threats_of_isExecutable
    (h : isExecutable m.catalog.executableExtensions name = true) :
    Text.ofString "Suspicious executable file type" ∈ (m.assess content name answer).threats := by
  refine List.mem_append_left _ (List.mem_append_right _ ?_)
  rw [if_pos h]
  exact List.mem_singleton_self _

theorem mem_patterns_of_count_pos (h : NoNegativeWeight m.catalog.anomalies)
    (hoccurs : ∃ s ∈ m.catalog.anomalies, 0 < s.pattern.count content ∧ s.label = label) :
    label ∈ (m.assess content name answer).anomalyDetection.suspiciousPatterns :=
  List.mem_append_left _ ((Matching.mem_labels_ofContent h).mpr hoccurs)

end MalwareAnalyzer

namespace Engine

open Shipped

/-! ## 3. Reports -/

variable {s : Settings} {scorer : Scorer} {usesSecondary : Option Bool} {clock : Timestamp}
  {file : FileInput} {r : Report} {a : MalwareAssessment}

/-- A report with an assessment tells what it was made from. -/
theorem exists_answer_of_scanFile
    (h : ((ofSettings s Catalog.default scorer usesSecondary clock).scanFile file).outcome = .ok r)
    (ha : r.malwareAssessment = some a) :
    ∃ contentHash answer,
      r = (ofSettings s Catalog.default scorer usesSecondary clock).fileReport file contentHash
        (some a) ∧
      a = (s.malwareAnalyzer Catalog.default scorer).assess file.content file.name answer := by
  obtain ⟨-, -, contentHash, -, assessment, hassessment, rfl⟩ := (scanFile_eq_ok_iff _ file).mp h
  obtain rfl : assessment = some a := ha
  have hanalyze := assessFile_of_assessment hassessment
  obtain ⟨answer, -, hassess, -⟩ := MalwareAnalyzer.exists_answer_of_analyze hanalyze
  exact ⟨contentHash, answer, rfl, hassess⟩

theorem mem_findings_fileReport {e : Engine} (hcatalog : e.catalog = Catalog.default)
    {contentHash : Text} {f : Finding}
    (hf : f ∈ (e.fileReport file contentHash (some a)).findings) :
    (∃ s ∈ malware, 0 < s.pattern.count file.content ∧ f.ruleId = s.ruleId ∧
        f.category = s.category) ∨
      ((Matching.ofExtension? file.name suspiciousExtensions).isSome = true ∧
        f.ruleId = Text.ofString "TL-EXT-001" ∧ f.category = .extension) ∨
      ∃ s ∈ suspicious, 0 < s.pattern.count file.content ∧ f.ruleId = s.ruleId ∧
        f.category = s.category := by
  rw [findings_fileReport e hcatalog, List.mem_append, List.mem_append] at hf
  rcases hf with (hf | hf) | hf
  · exact .inl (Matching.exists_of_mem_ofContent hf)
  · have hextension := Option.mem_toList.mp hf
    obtain ⟨x, -, rfl⟩ := Option.map_eq_some_iff.mp hextension
    exact .inr (.inl ⟨by rw [hextension]; rfl, rfl, rfl⟩)
  · exact .inr (.inr (Matching.exists_of_mem_ofContent hf))

/-- A threat of the draft is evidence for the analyzer: a word for malware, or the extension. -/
theorem exists_evidence_of_threatCount {e : Engine} (hcatalog : e.catalog = Catalog.default)
    (h : 0 < (e.draftOf file).threatCount) :
    (∃ s ∈ advancedMalware, 0 < s.pattern.count file.content) ∨
      MalwareAnalyzer.isExecutable executableExtensions file.name = true := by
  by_cases hextension : (Matching.ofExtension? file.name suspiciousExtensions).isSome = true
  · exact .inr (Matching.isExecutable_of_ofExtension? hextension)
  · left
    have hcount : 0 < (Matching.ofContent file.content malware).signatureCount := by
      rw [Bool.not_eq_true, Option.isSome_eq_false_iff, Option.isNone_iff_eq_none] at hextension
      simpa [draftOf, hcatalog, Catalog.default, hextension] using h
    obtain ⟨ruleId, hruleId⟩ := List.exists_mem_of_length_pos hcount
    obtain ⟨f, hf, -⟩ := List.mem_map.mp (Text.mem_firstOfEach.mp hruleId)
    obtain ⟨s, hs, hpos, -⟩ := Matching.exists_of_mem_ofContent hf
    obtain ⟨l, hl, hid⟩ := exists_evidenceOf s hs
    obtain ⟨s', hs', hpos', -⟩ := malware_covered.exists_count_pos hs hpos hl hid
    exact ⟨s', hs', hpos'⟩

/-- **What the findings of a report say, its assessment says, too.** -/
theorem scanFile_agrees
    (h : ((ofSettings s Catalog.default scorer usesSecondary clock).scanFile file).outcome = .ok r)
    (ha : r.malwareAssessment = some a) : r.Agrees a := by
  have hweight := Catalog.noNegativeWeight_default
  obtain ⟨contentHash, answer, rfl, rfl⟩ := exists_answer_of_scanFile h ha
  constructor
  case malware =>
    intro f hf l hl hid
    rcases mem_findings_fileReport rfl hf with
      ⟨t, ht, hpos, heq, -⟩ | ⟨-, heq, -⟩ | ⟨t, ht, -, heq, -⟩
    · rw [heq] at hid
      exact MalwareAnalyzer.mem_threats_of_count_pos (hweight .advancedMalware)
        (malware_covered.exists_count_pos ht hpos hl hid)
    · exact absurd (heq ▸ hid) (evidenceOf_apart l hl).1
    · exact absurd (heq ▸ hid) ((evidenceOf_apart l hl).2 t ht)
  case ruleIds =>
    intro f hf hcategory
    rcases mem_findings_fileReport rfl hf with
      ⟨t, ht, -, heq, -⟩ | ⟨-, -, heq⟩ | ⟨t, ht, -, -, heq⟩
    · rw [heq]
      exact exists_evidenceOf t ht
    · rw [heq] at hcategory
      cases hcategory
    · rw [heq] at hcategory
      exact absurd hcategory (category_suspicious t ht)
  case extension =>
    intro f hf hid
    rcases mem_findings_fileReport rfl hf with
      ⟨t, ht, -, heq, -⟩ | ⟨hextension, -⟩ | ⟨t, ht, -, heq, -⟩
    · exact absurd (heq ▸ hid) (ruleId_ne_extension t (List.mem_append_left _ ht))
    · exact MalwareAnalyzer.mem_threats_of_isExecutable
        (Matching.isExecutable_of_ofExtension? hextension)
    · exact absurd (heq ▸ hid) (ruleId_ne_extension t (List.mem_append_right _ ht))
  case signs =>
    intro f hf l hl hid
    rcases mem_findings_fileReport rfl hf with
      ⟨t, ht, -, heq, -⟩ | ⟨-, heq, -⟩ | ⟨t, ht, hpos, heq, -⟩
    · exact absurd (heq ▸ hid) ((signOf_apart l hl).2 t ht)
    · exact absurd (heq ▸ hid) (signOf_apart l hl).1
    · rw [heq] at hid
      exact MalwareAnalyzer.mem_patterns_of_count_pos (hweight .anomalies)
        (suspicious_covered.exists_count_pos ht hpos hl hid)
  case score =>
    intro hthreats
    have hdraft : 0 < ((ofSettings s Catalog.default scorer usesSecondary clock).draftOf
        file).threatCount := by
      rwa [fileReport, FileFacts.toReport, fileFacts, add_sub_cancel_right] at hthreats
    exact MalwareAnalyzer.less_score_patterns (Catalog.positiveWeights_default .advancedMalware)
      share_advancedMalware (exists_evidence_of_threatCount rfl hdraft)

/-- A word for malware, an extension and a sign of concealment, each with its counterpart. -/
theorem scanFile_agrees_of_program :
    ∃ r a, ((ofSettings {} Catalog.default (fun _ => .made ⟨1, 1⟩) none default).scanFile
        miner).outcome = .ok r ∧
      r.malwareAssessment = some a ∧ r.Agrees a ∧
      r.findings.map (fun f => (f.ruleId, f.category, f.severity, f.label)) =
        [(Text.ofString "TL-MAL-006", .malware, .high, Text.ofString "bitcoin"),
          (Text.ofString "TL-EXT-001", .extension, .high,
            Text.ofString "Suspicious executable file type (.exe)"),
          (Text.ofString "TL-SUS-002", .suspicious, .medium, Text.ofString "eval(")] ∧
      a.threats =
        [Text.ofString "Cryptocurrency mining/theft detected",
          Text.ofString "Botnet/C2 communication detected",
          Text.ofString "Suspicious executable file type",
          Text.ofString "Anomaly detected: Dynamic code execution"] ∧
      a.anomalyDetection.suspiciousPatterns = [Text.ofString "Dynamic code execution"] ∧
      less 0 a.patternScore = true := by
  obtain ⟨r, a, hr, ha, rfl, hfindings⟩ := scanFile_miner
  obtain ⟨-, hscore, hthreats, hpatterns⟩ := assess_miner
  have hfound := (congrArg (List.map _) hfindings).trans findings_miner
  exact ⟨r, _, hr, ha, scanFile_agrees hr ha, hfound, hthreats, hpatterns, hscore⟩

end Engine
end ThreatScan
