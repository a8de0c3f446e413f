/-
# The counts of a report and its findings

A report on a file has its findings in one list, two counts, and the threats in words, and it makes
each of them on its own: the counts from the ids of rules before the findings are put together, the
words from categories, and the bonus for a malicious file at the end.  With the shipped tables they
agree (`scanFile_accounts`), since no two rules share an id, a rule for malware is grave, a
suspicious one is not, and no two findings say the same.
-/
import ThreatScan.Proofs.Engine.Outcome
import ThreatScan.Proofs.Scan.Findings
import ThreatScan.Proofs.Text.Basic

namespace ThreatScan

/-- The finding of a signature in a whole content. -/
def Finding.IsOf (content : Text) (s : Signature) (f : Finding) : Prop :=
  ∃ snippet, f = Matching.finding s (s.pattern.count content) snippet none

/-- What a report on a file says in numbers and words agrees with its findings. -/
structure Report.Accounts (r : Report) (file : FileInput) : Prop where
  /-- One finding for each rule that occurs, and one for the name between the tables. -/
  findings : ∃ malware suspicious, r.findings = malware ++
      (Matching.ofExtension? file.name Shipped.suspiciousExtensions).toList ++ suspicious ∧
    List.Forall₂ (Finding.IsOf file.content)
      (Shipped.malware.filter fun s => 0 < s.pattern.count file.content) malware ∧
    List.Forall₂ (Finding.IsOf file.content)
      (Shipped.suspicious.filter fun s => 0 < s.pattern.count file.content) suspicious
  extension : (Matching.ofExtension? file.name Shipped.suspiciousExtensions).isSome ↔
    ∃ e ∈ Shipped.suspiciousExtensions, e <:+ Text.lowercase file.name
  ruleIds : (r.findings.map (·.ruleId)).Nodup
  threatCount : r.threatCount - (if r.malwareAssessment.any (·.isMalicious) then 2 else 0) =
    (r.findings.countP fun f => f.severity = .high : ℕ)
  warningCount : r.warningCount = (r.findings.countP fun f => f.severity = .medium : ℕ)
  severity : ∀ f ∈ r.findings, f.severity ≠ .low
  /-- First an entry for each finding of malware or of an extension, then those threats of a
  malicious assessment that are not listed yet. -/
  vulnerabilities : ∃ entries : List Text,
    List.Forall₂ (fun f entry => entry = (if f.category = .malware then
        Text.ofString "Malware signature detected: " ++ f.label else f.label))
      (r.findings.filter fun f => f.category = .malware ∨ f.category = .extension) entries ∧
    (∀ a ∈ r.malwareAssessment, a.isMalicious = true →
      r.vulnerabilities = entries ++ Text.firstOfEach (a.threats.filter (· ∉ entries))) ∧
    (r.malwareAssessment.any (·.isMalicious) = false → r.vulnerabilities = entries)
  distinct : r.vulnerabilities.Nodup

namespace FileFacts

/-- A finding of malware or of an extension stands for a threat, and no other finding does. -/
theorem isSome_threat? (f : Finding) :
    (threat? f).isSome = decide (f.category = .malware ∨ f.category = .extension) := by
  rw [threat?]
  cases f.category <;> rfl

theorem eq_of_threat? {f : Finding} {entry : Text} (h : threat? f = some entry) :
    entry = if f.category = .malware then Text.ofString "Malware signature detected: " ++ f.label
      else f.label := by
  rw [threat?] at h
  cases hcategory : f.category <;> simp_all

/-- The entries that a function gives, each for its own place in the list. -/
theorem forall₂_filterMap {α β : Type} (g : α → Option β) (xs : List α) :
    List.Forall₂ (fun x y => g x = some y) (xs.filter fun x => (g x).isSome) (xs.filterMap g) := by
  induction xs with
  | nil => exact .nil
  | cons x xs ih =>
    cases hx : g x with
    | none => simpa [hx] using ih
    | some y => simpa [hx] using ih

/-- **Threats in words without repetitions come first**, and new ones follow. -/
theorem vulnerabilities_eq {findings : List Finding} (h : (findings.filterMap threat?).Nodup)
    (assessment : Option MalwareAssessment) :
    vulnerabilities findings assessment = findings.filterMap threat? ++
      Text.firstOfEach ((assessedThreats assessment).filter (· ∉ findings.filterMap threat?)) := by
  have hnew : (assessedThreats assessment).removeAll (findings.filterMap threat?) =
      (assessedThreats assessment).filter (· ∉ findings.filterMap threat?) := by
    refine List.filter_congr ?_
    intro t _
    rw [List.elem_eq_contains, List.contains_eq_mem, decide_not]
  rw [vulnerabilities, Text.firstOfEach_append, Text.firstOfEach_of_nodup h, hnew]

end FileFacts

namespace Matching

variable {table : List Signature} {content name : Text} {extensions : List Text}

/-! ## 1. Tables -/

/-- **A table has one finding for each signature that occurs**, in its order. -/
theorem forall₂_ofContent (h : NoNegativeWeight table) (content : Text) :
    List.Forall₂ (Finding.IsOf content) (table.filter fun s => 0 < s.pattern.count content)
      (ofContent content table).findings := by
  rw [ofContent_eq h]
  clear h
  induction table with
  | nil => exact .nil
  | cons s table ih =>
    obtain ⟨snippet, hs⟩ := inContent?_eq content s
    by_cases hcount : s.pattern.count content = 0
    · rw [if_pos hcount] at hs
      rwa [List.filterMap_cons_none hs, List.filter_cons_of_neg (by simp [hcount])]
    · rw [if_neg hcount] at hs
      rw [List.filterMap_cons_some hs, List.filter_cons_of_pos (by simp; omega)]
      exact .cons ⟨snippet, rfl⟩ ih

/-- What findings say of their signatures, whatever they were found in, signatures say in the same
order. -/
theorem filterMap_findings_sublist {β : Type} {g : Finding → Option β}
    (hg : ∀ s n snippet, g (finding s n snippet none) = g (finding s 0 [] none))
    (h : NoNegativeWeight table) (content : Text) :
    ((ofContent content table).findings.filterMap g).Sublist
      (table.filterMap fun s => g (finding s 0 [] none)) := by
  have heq {ss : List Signature} {fs : List Finding}
      (hfs : List.Forall₂ (Finding.IsOf content) ss fs) :
      fs.filterMap g = ss.filterMap fun s => g (finding s 0 [] none) := by
    induction hfs with
    | nil => rfl
    | cons hf _ ih =>
      obtain ⟨snippet, rfl⟩ := hf
      rw [List.filterMap_cons, List.filterMap_cons, hg, ih]
  rw [heq (forall₂_ofContent h content)]
  exact List.filter_sublist.filterMap _

/-- Signatures with different ids are counted like their findings. -/
theorem signatureCount_eq (h : NoNegativeWeight table) (hids : (table.map (·.ruleId)).Nodup)
    (content : Text) :
    (ofContent content table).signatureCount = (ofContent content table).findings.length := by
  have hsublist := filterMap_findings_sublist (g := fun f => some f.ruleId) (fun _ _ _ => rfl) h
    content
  rw [List.filterMap_eq_map', List.filterMap_eq_map'] at hsublist
  rw [signatureCount, Text.firstOfEach_of_nodup (hids.sublist hsublist), List.length_map]

/-- The findings of a table have the severity of its signatures. -/
theorem severity_of_mem_findings {severity : Level} (htable : ∀ s ∈ table, s.severity = severity) :
    ∀ f ∈ (ofContent content table).findings, f.severity = severity := by
  intro f hf
  obtain ⟨hmem, -⟩ := mem_of_mem_ofFindings hf
  obtain ⟨s, hs, hf⟩ := List.mem_filterMap.mp hmem
  obtain ⟨n, snippet, -, rfl⟩ := eq_finding_of_inContent? hf
  exact htable s hs

/-! ## 2. Extensions -/

theorem isSome_ofExtension? :
    (ofExtension? name extensions).isSome ↔ ∃ e ∈ extensions, e <:+ Text.lowercase name := by
  rw [ofExtension?, Option.isSome_map, List.find?_isSome]
  simp [Text.endsWith, List.isSuffixOf_iff_suffix]

theorem exists_of_ofExtension? {f : Finding} (h : ofExtension? name extensions = some f) :
    ∃ e ∈ extensions, f.ruleId = Text.ofString "TL-EXT-001" ∧
      FileFacts.threat? f = some ("Suspicious executable file type (" ++ e ++ ")") := by
  obtain ⟨e, he, rfl⟩ := Option.map_eq_some_iff.mp h
  exact ⟨e, List.mem_of_find?_eq_some he, rfl, rfl⟩

theorem severity_of_mem_extension :
    ∀ f ∈ (ofExtension? name extensions).toList, f.severity = .high := by
  intro f hf
  obtain ⟨e, -, rfl⟩ := Option.map_eq_some_iff.mp (Option.mem_toList.mp hf)
  rfl

end Matching

namespace Shipped

theorem severity_malware : ∀ s ∈ malware, s.severity = .high := by decide

theorem severity_suspicious : ∀ s ∈ suspicious, s.severity = .medium := by decide

end Shipped

namespace Engine

open Shipped

/-! ## 3. Reports -/

variable (e : Engine) (hcatalog : e.catalog = Catalog.default) (file : FileInput)
  (contentHash : Text) (assessment : Option MalwareAssessment)
include hcatalog

theorem findings_fileReport :
    (e.fileReport file contentHash assessment).findings =
      (Matching.ofContent file.content malware).findings ++
        (Matching.ofExtension? file.name suspiciousExtensions).toList ++
        (Matching.ofContent file.content suspicious).findings := by
  simp only [fileReport, FileFacts.toReport, fileFacts, draftOf, fileFindings, hcatalog]
  rfl

/-- **No two findings of a report agree** in what tells apart the rules of its tables. -/
theorem nodup_filterMap_findings {β : Type} {g : Finding → Option β}
    (hg : ∀ s n snippet,
      g (Matching.finding s n snippet none) = g (Matching.finding s 0 [] none))
    (h : ∀ extension, Matching.ofExtension? file.name suspiciousExtensions = extension →
      (malware.filterMap (fun s => g (Matching.finding s 0 [] none)) ++
        (extension.bind g).toList ++
        suspicious.filterMap fun s => g (Matching.finding s 0 [] none)).Nodup) :
    ((e.fileReport file contentHash assessment).findings.filterMap g).Nodup := by
  have hmalware := Matching.filterMap_findings_sublist hg
    (Catalog.noNegativeWeight_default .malware) file.content
  have hsuspicious := Matching.filterMap_findings_sublist hg
    (Catalog.noNegativeWeight_default .suspicious) file.content
  have hextension (extension : Option Finding) :
      extension.toList.filterMap g = (extension.bind g).toList := by
    cases extension with
    | none => rfl
    | some f => cases hf : g f <;> simp [hf]
  rw [findings_fileReport e hcatalog, List.filterMap_append, List.filterMap_append, hextension]
  exact (h _ rfl).sublist ((hmalware.append_right _).append hsuspicious)

theorem nodup_ruleIds :
    ((e.fileReport file contentHash assessment).findings.map (·.ruleId)).Nodup := by
  have hnodup := nodup_filterMap_findings e hcatalog file contentHash assessment
    (g := fun f => some f.ruleId) (fun _ _ _ => rfl) ?_
  · rwa [List.filterMap_eq_map'] at hnodup
  · intro extension hextension
    cases extension with
    | none => decide +kernel
    | some f =>
      obtain ⟨-, -, hruleId, -⟩ := Matching.exists_of_ofExtension? hextension
      rw [Option.bind_some, hruleId]
      decide +kernel

theorem nodup_threats :
    ((e.fileReport file contentHash assessment).findings.filterMap FileFacts.threat?).Nodup := by
  refine nodup_filterMap_findings e hcatalog file contentHash assessment (fun _ _ _ => rfl) ?_
  intro extension hextension
  cases extension with
  | none => decide +kernel
  | some f =>
    obtain ⟨x, hx, -, hthreat⟩ := Matching.exists_of_ofExtension? hextension
    rw [Option.bind_some, hthreat]
    clear hthreat
    revert x
    decide +kernel

/-- The findings of a severity are those of whole tables. -/
theorem countP_severity (severity : Level) :
    (e.fileReport file contentHash assessment).findings.countP (fun f => f.severity = severity) =
      (if severity = .high then (Matching.ofContent file.content malware).findings.length +
          (Matching.ofExtension? file.name suspiciousExtensions).toList.length else 0) +
        if severity = .medium then (Matching.ofContent file.content suspicious).findings.length
        else 0 := by
  have hcount {l : Level} {fs : List Finding} (h : ∀ f ∈ fs, f.severity = l) :
      fs.countP (fun f => f.severity = severity) = if severity = l then fs.length else 0 := by
    split
    case isTrue hl =>
      exact List.countP_eq_length.mpr fun f hf => decide_eq_true ((h f hf).trans hl.symm)
    case isFalse hl =>
      exact List.countP_eq_zero.mpr fun f hf => by simpa [h f hf] using Ne.symm hl
  rw [findings_fileReport e hcatalog, List.countP_append, List.countP_append,
    hcount (Matching.severity_of_mem_findings severity_malware),
    hcount Matching.severity_of_mem_extension,
    hcount (Matching.severity_of_mem_findings severity_suspicious)]
  split <;> simp

/-- The parts of a report that come from the findings. -/
theorem accounts_fileReport : (e.fileReport file contentHash assessment).Accounts file where
  findings := ⟨_, _, findings_fileReport e hcatalog file contentHash assessment,
    Matching.forall₂_ofContent (Catalog.noNegativeWeight_default .malware) file.content,
    Matching.forall₂_ofContent (Catalog.noNegativeWeight_default .suspicious) file.content⟩
  extension := Matching.isSome_ofExtension?
  ruleIds := nodup_ruleIds e hcatalog file contentHash assessment
  threatCount := by
    have hcount : (Matching.ofContent file.content malware).signatureCount =
        (Matching.ofContent file.content malware).findings.length :=
      Matching.signatureCount_eq (Catalog.noNegativeWeight_default .malware) (by decide) _
    rw [countP_severity e hcatalog, if_pos (rfl : Level.high = .high),
      if_neg (by decide : Level.high ≠ .medium), Nat.add_zero, ← hcount]
    simp only [fileReport, FileFacts.toReport, fileFacts, draftOf, hcatalog]
    cases assessment with
    | none => exact sub_zero _
    | some a => exact add_sub_cancel_right _ _
  warningCount := by
    have hcount : (Matching.ofContent file.content suspicious).signatureCount =
        (Matching.ofContent file.content suspicious).findings.length :=
      Matching.signatureCount_eq (Catalog.noNegativeWeight_default .suspicious)
        (by decide) _
    rw [countP_severity e hcatalog, if_neg (by decide : Level.medium ≠ .high),
      if_pos (rfl : Level.medium = .medium), Nat.zero_add, ← hcount]
    simp only [fileReport, FileFacts.toReport, fileFacts, draftOf, hcatalog]
    rfl
  severity := by
    intro f hf
    rw [findings_fileReport e hcatalog, List.mem_append, List.mem_append] at hf
    rcases hf with (hf | hf) | hf
    · simp [Matching.severity_of_mem_findings severity_malware f hf]
    · simp [Matching.severity_of_mem_extension f hf]
    · simp [Matching.severity_of_mem_findings severity_suspicious f hf]
  vulnerabilities := by
    have heq := FileFacts.vulnerabilities_eq
      (nodup_threats e hcatalog file contentHash assessment) assessment
    refine ⟨(e.fileReport file contentHash assessment).findings.filterMap FileFacts.threat?,
      ?_, ?_, ?_⟩
    · simp only [← FileFacts.isSome_threat?]
      exact (FileFacts.forall₂_filterMap FileFacts.threat? _).imp
        fun _ _ => FileFacts.eq_of_threat?
    · rintro a ⟨⟩ hmalicious
      rwa [FileFacts.assessedThreats, if_pos hmalicious] at heq
    · intro hharmless
      cases assessment with
      | none => exact heq.trans (List.append_nil _)
      | some a =>
        have hharmless : ¬ a.isMalicious = true := Bool.eq_false_iff.mp hharmless
        rw [FileFacts.assessedThreats, if_neg hharmless] at heq
        exact heq.trans (List.append_nil _)
  distinct := Text.nodup_firstOfEach _

/-- **The counts and lists of a report on a file agree with its findings.** -/
theorem scanFile_accounts {r : Report} (h : (e.scanFile file).outcome = .ok r) :
    r.Accounts file := by
  obtain ⟨-, -, contentHash, -, assessment, -, rfl⟩ := (e.scanFile_eq_ok_iff file).mp h
  exact accounts_fileReport e hcatalog file contentHash assessment

omit hcatalog in
/-- A program with two words of evidence, one of them for malware, and a call for concealment. -/
def miner : FileInput := ⟨"Miner.EXE", "bitcoin c2 eval(", none, none⟩

omit hcatalog in
/-- What is found in it. -/
theorem findings_miner :
    ((Matching.ofContent miner.content malware).findings ++
        (Matching.ofExtension? miner.name suspiciousExtensions).toList ++
        (Matching.ofContent miner.content suspicious).findings).map
          (fun f => (f.ruleId, f.category, f.severity, f.label)) =
      [(Text.ofString "TL-MAL-006", .malware, .high, Text.ofString "bitcoin"),
        (Text.ofString "TL-EXT-001", .extension, .high,
          Text.ofString "Suspicious executable file type (.exe)"),
        (Text.ofString "TL-SUS-002", .suspicious, .medium, Text.ofString "eval(")] := by
  simp only [Matching.ofContent, Matching.inContent?_eq_scanContent?]
  decide +kernel

omit hcatalog in
/-- What the assessment says of it, with a scorer that is sure of everything. -/
theorem assess_miner :
    let a := (({} : Settings).malwareAnalyzer Catalog.default fun _ => .made ⟨1, 1⟩).assess
      miner.content miner.name (.ok ⟨1, 1⟩)
    a.isMalicious = true ∧ Binary64.less 0 a.patternScore = true ∧
      a.threats =
        [Text.ofString "Cryptocurrency mining/theft detected",
          Text.ofString "Botnet/C2 communication detected",
          Text.ofString "Suspicious executable file type",
          Text.ofString "Anomaly detected: Dynamic code execution"] ∧
      a.anomalyDetection.suspiciousPatterns = [Text.ofString "Dynamic code execution"] := by
  simp only [MalwareAnalyzer.assess, MalwareAnalyzer.patterns, MalwareAnalyzer.anomalies,
    Matching.ofContent, Matching.inContent?_eq_scanContent?]
  decide +kernel

omit hcatalog in
/-- Its report with a scorer that is sure of everything. -/
theorem scanFile_miner :
    ∃ r a, ((ofSettings {} Catalog.default (fun _ => .made ⟨1, 1⟩) none default).scanFile
        miner).outcome = .ok r ∧
      r.malwareAssessment = some a ∧
      a = (({} : Settings).malwareAnalyzer Catalog.default fun _ => .made ⟨1, 1⟩).assess
        miner.content miner.name (.ok ⟨1, 1⟩) ∧
      r.findings = (Matching.ofContent miner.content malware).findings ++
        (Matching.ofExtension? miner.name suspiciousExtensions).toList ++
        (Matching.ofContent miner.content suspicious).findings := by
  have hread : Scorer.read ({} : Settings).secondaryTimeout (fun _ => .made ⟨1, 1⟩)
      miner.content = .ok (.ok ⟨1, 1⟩) := by
    decide +kernel
  have hunit : (MalwareAnalyzer.answerOf (.ok ⟨1, 1⟩)).InUnit := by
    constructor <;> exact Binary64.unit_brokenByNumber.mp (by decide +kernel)
  obtain ⟨contentHash, hr⟩ := exists_contentHash none default miner
    Catalog.noNegativeWeight_default hread hunit rfl (by decide) (by decide)
  exact ⟨_, _, hr, rfl, rfl, findings_fileReport _ rfl miner contentHash _⟩

omit hcatalog in
/-- Two grave findings and a warning, and the threats of a malicious assessment after them. -/
theorem scanFile_accounts_of_program :
    ∃ r a, ((ofSettings {} Catalog.default (fun _ => .made ⟨1, 1⟩) none default).scanFile
        miner).outcome = .ok r ∧ r.Accounts miner ∧
      r.findings.map (fun f => (f.ruleId, f.category, f.severity, f.label)) =
        [(Text.ofString "TL-MAL-006", .malware, .high, Text.ofString "bitcoin"),
          (Text.ofString "TL-EXT-001", .extension, .high,
            Text.ofString "Suspicious executable file type (.exe)"),
          (Text.ofString "TL-SUS-002", .suspicious, .medium, Text.ofString "eval(")] ∧
      r.malwareAssessment = some a ∧ a.isMalicious = true ∧
      r.threatCount = 4 ∧ r.warningCount = 1 ∧
      r.vulnerabilities =
        [Text.ofString "Malware signature detected: bitcoin",
          Text.ofString "Suspicious executable file type (.exe)",
          Text.ofString "Cryptocurrency mining/theft detected",
          Text.ofString "Botnet/C2 communication detected",
          Text.ofString "Suspicious executable file type",
          Text.ofString "Anomaly detected: Dynamic code execution"] := by
  obtain ⟨r, a, hr, ha, rfl, hfindings⟩ := scanFile_miner
  obtain ⟨hmalicious, -, hthreats, -⟩ := assess_miner
  have haccounts := scanFile_accounts _ rfl _ hr
  have hfound := (congrArg (List.map _) hfindings).trans findings_miner
  have hcount (severity : Level) : r.findings.countP (fun f => f.severity = severity) =
      (r.findings.map fun f => (f.ruleId, f.category, f.severity, f.label)).countP
        (fun f => f.2.2.1 = severity) := by
    rw [List.countP_map]
    rfl
  refine ⟨r, _, hr, haccounts, hfound, ha, hmalicious, ?_, ?_, ?_⟩
  · have hthreats := haccounts.threatCount
    rw [ha, Option.any_some, if_pos hmalicious, hcount, hfound, sub_eq_iff_eq_add] at hthreats
    exact hthreats
  · have hwarnings := haccounts.warningCount
    rw [hcount, hfound] at hwarnings
    exact hwarnings
  · obtain ⟨entries, hentries, hmore, -⟩ := haccounts.vulnerabilities
    have hentries : entries = ((r.findings.map fun f =>
        (f.ruleId, f.category, f.severity, f.label)).filter fun f =>
          f.2.1 = .malware ∨ f.2.1 = .extension).map fun f => if f.2.1 = .malware then
            Text.ofString "Malware signature detected: " ++ f.2.2.2 else f.2.2.2 := by
      rw [← List.forall₂_eq_eq_eq, List.filter_map, List.map_map, List.forall₂_map_right_iff]
      exact hentries.flip
    rw [hfound] at hentries
    rw [hmore _ ha hmalicious, hthreats, hentries]
    decide +kernel

end Engine
end ThreatScan
