/-
# Records come back

The untyped form of a record has a member for each field, so decoding it gives the record, as long
as the record keeps its bounds: an integer is written as an integer and a number as a number, and
an absent value as `null`.  A member that is worked out from the others is passed over, because
decoders look members up by name.  All that can be lost on the way are seconds of an offset, which
are not written (`Report.inMinutes`).

A decoder is stated to undo the encoder beside it, from single values up to the two reports.
-/
import ThreatScan.Data.Records
import ThreatScan.Report.Document
import ThreatScan.Proofs.Engine.Outcome
import ThreatScan.Proofs.Report.Timestamp

namespace ThreatScan

/-! ## 1. What is written -/

/-- What is written of metadata. -/
def Metadata.inMinutes (m : Metadata) : Metadata := { m with scanned := m.scanned.inMinutes }

/-- What is written of a report. -/
def Report.inMinutes (r : Report) : Report := { r with metadata := r.metadata.inMinutes }

/-- What is written of a report on code. -/
def CodeReport.inMinutes (r : CodeReport) : CodeReport :=
  { r with toReport := r.toReport.inMinutes }

/-! ## 2. Members -/

theorem Text.ofString_inj {s t : String} : Text.ofString s = Text.ofString t ↔ s = t := by
  constructor
  · intro h
    have hchar (a b : Char) (hab : a.toNat = b.toNat) : a = b := Char.ext (UInt32.toNat_inj.mp hab)
    exact String.toList_inj.mp ((List.map_inj_right hchar).mp h)
  · rintro rfl
    rfl

namespace Checked

variable {α β : Type}

@[simp] theorem map_valid (f : α → β) (a : α) : f <$> valid a = valid (f a) := rfl

@[simp] theorem seq_valid (f : α → β) (a : α) : valid f <*> valid a = valid (f a) := rfl

@[simp] theorem within_valid (step : Step) (a : α) : (valid a).within step = valid a := rfl

@[simp] theorem andThen_valid (a : α) (f : α → Checked β) : (valid a).andThen f = f a := rfl

end Checked

namespace Decode

variable {α : Type}

/-- A record's members under their names as texts. -/
theorem record_record (name : Text) (f : Members → Checked α) (members : List (String × Json)) :
    record name f (.record members) = f (members.map fun m => (Text.ofString m.1, m.2)) := rfl

theorem record_ne_null (members : List (String × Json)) : Json.record members ≠ .null := nofun

theorem lookup_members (members : List (String × Json)) (name : String) :
    (members.map fun m => (Text.ofString m.1, m.2)).lookup (Text.ofString name) =
      members.lookup name := by
  induction members with
  | nil => rfl
  | cons m ms ih =>
    obtain ⟨k, j⟩ := m
    have hbeq : (Text.ofString name == Text.ofString k) = (name == k) := by
      rw [Bool.eq_iff_iff, beq_iff_eq, beq_iff_eq, Text.ofString_inj]
    rw [List.map_cons, List.lookup_cons, List.lookup_cons, ih, hbeq]

/-- A member that was looked up, decoded. -/
def memberOr (absent : Checked α) (name : Text) (d : Decoder α) : Option Json → Checked α
  | some j => (d j).within (.field name)
  | none => absent

@[simp] theorem memberOr_some (absent : Checked α) (name : Text) (d : Decoder α) (j : Json) :
    memberOr absent name d (some j) = (d j).within (.field name) := rfl

theorem required_members (name : String) (d : Decoder α) (members : List (String × Json)) :
    required name d (members.map fun m => (Text.ofString m.1, m.2)) =
      memberOr (.invalid [.atField name .missing]) name d (members.lookup name) := by
  rw [required, lookup_members]
  cases members.lookup name <;> rfl

theorem defaulted_members (name : String) (default : α) (d : Decoder α)
    (members : List (String × Json)) :
    defaulted name default d (members.map fun m => (Text.ofString m.1, m.2)) =
      memberOr (.valid default) name d (members.lookup name) := by
  rw [defaulted, lookup_members]
  cases members.lookup name <;> rfl

/-! ## 3. Values -/

@[simp] theorem text_text (t : Text) : text (.text t) = .valid t := rfl

@[simp] theorem boolean_bool (b : Bool) : boolean (.bool b) = .valid b := rfl

@[simp] theorem integer_int (n : ℤ) : integer (.int n) = .valid n := rfl

@[simp] theorem level_ofLevel (l : Level) : level (Json.ofLevel l) = .valid l := by
  cases l <;> rfl

@[simp] theorem category_name (c : Category) : category (.text c.name) = .valid c := by
  cases c <;> rfl

@[simp] theorem inputKind_name (k : InputKind) : inputKind (.text k.name) = .valid k := by
  cases k <;> rfl

theorem timestamp_text {t : Timestamp} (h : t.IsProper) :
    Timestamp.decode (.text t.text) = .valid t.inMinutes := by
  simp [Timestamp.decode, Timestamp.ofText?_text h]

theorem numberIn_float {b : Bounds} {x : Binary64} (h : b.brokenByNumber x = none) :
    numberIn b (.float x) = .valid x := by
  simp [numberIn, number, h]

theorem integerIn_int {b : Bounds} {n : ℤ} (h : b.brokenBy n = none) :
    integerIn b (.int n) = .valid n := by
  simp [integerIn, h]

theorem optional_optional {d : Decoder α} {f : α → Json} {o : Option α} (hnull : ∀ a, f a ≠ .null)
    (hd : ∀ a ∈ o, d (f a) = .valid a) : optional d (.optional f o) = .valid o := by
  cases o with
  | none => rfl
  | some a =>
    have hvalue := hd a rfl
    have hnull' := hnull a
    simp only [Json.optional, optional, hvalue]
    rfl

theorem listOf_map {d : Decoder α} {f : α → Json} {as : List α}
    (hd : ∀ a ∈ as, d (f a) = .valid a) : listOf d (.array (as.map f)) = .valid as := by
  have hitems (i : ℕ) : itemsFrom d i (as.map f) = .valid as := by
    induction as generalizing i with
    | nil => rfl
    | cons a as ih =>
      have hrest := ih (fun b hb => hd b (List.mem_cons_of_mem _ hb)) (i + 1)
      simp [itemsFrom, hd a List.mem_cons_self, hrest]
  exact hitems 0

@[simp] theorem texts_texts (ts : List Text) : texts (.texts ts) = .valid ts :=
  listOf_map fun t _ => text_text t

/-! ## 4. Records -/

theorem finding_ofFinding {f : Finding} (h : f.InBounds) : finding (Json.ofFinding f) = .valid f := by
  have hline : optional (integerIn .positive) (.optional .int f.lineNumber) = .valid f.lineNumber :=
    optional_optional (by simp) fun n hn => integerIn_int (h.lineNumber n hn)
  simp only [finding, Json.ofFinding, record_record, required_members, defaulted_members]
  simp [List.lookup_cons, numberIn_float h.weight, integerIn_int h.matchCount, hline]

theorem vulnerabilityDetail_ofVulnerabilityDetail (v : VulnerabilityDetail) :
    vulnerabilityDetail (Json.ofVulnerabilityDetail v) = .valid v := by
  simp only [vulnerabilityDetail, Json.ofVulnerabilityDetail, record_record, required_members]
  simp [List.lookup_cons]

theorem suggestion_ofSuggestion (s : Suggestion) :
    suggestion (Json.ofSuggestion s) = .valid s := by
  simp only [suggestion, Json.ofSuggestion, record_record, required_members]
  simp [List.lookup_cons]

theorem anomalyDetection_ofAnomalyDetection {a : AnomalyDetection}
    (h : Bounds.unit.brokenByNumber a.anomalyScore = none) :
    anomalyDetection (Json.ofAnomalyDetection a) = .valid a := by
  simp only [anomalyDetection, Json.ofAnomalyDetection, record_record, required_members,
    defaulted_members]
  simp [List.lookup_cons, numberIn_float h]

theorem anomalyScore_of_violations {a : MalwareAssessment}
    (h : MalwareAnalyzer.violations a = []) :
    Bounds.unit.brokenByNumber a.anomalyDetection.anomalyScore = none := by
  cases hanomaly : Bounds.unit.brokenByNumber a.anomalyDetection.anomalyScore with
  | none => rfl
  | some r => simp [MalwareAnalyzer.violations, hanomaly] at h

theorem malwareAssessment_ofMalwareAssessment {a : MalwareAssessment}
    (h : MalwareAnalyzer.violations a = []) :
    malwareAssessment (Json.ofMalwareAssessment a) = .valid a := by
  have hanomaly := anomalyScore_of_violations h
  simp only [MalwareAnalyzer.violations, hanomaly, Option.map_none, Option.toList_none,
    List.append_eq_nil_iff, Option.toList_eq_nil_iff, Option.map_eq_none_iff] at h
  obtain ⟨⟨⟨⟨⟨hconfidence, hpattern⟩, hsecondary⟩, hcombined⟩, hrisk⟩, hsecurity⟩ := h
  have herror : optional text (.optional .text a.secondaryError) = .valid a.secondaryError :=
    optional_optional (by simp) fun t _ => text_text t
  simp only [malwareAssessment, Json.ofMalwareAssessment, record_record, required_members,
    defaulted_members]
  simp [List.lookup_cons, numberIn_float hconfidence, numberIn_float hpattern,
    numberIn_float hsecondary, numberIn_float hcombined, integerIn_int hrisk,
    integerIn_int hsecurity, anomalyDetection_ofAnomalyDetection hanomaly, herror]

theorem codeQuality_ofCodeQuality {q : CodeQuality} (h : Quality.violations q = []) :
    codeQuality (Json.ofCodeQuality q) = .valid q := by
  simp [Quality.violations] at h
  obtain ⟨hsecurity, hmaintainability, hcomplexity⟩ := h
  simp only [codeQuality, Json.ofCodeQuality, record_record, required_members, defaulted_members]
  simp [List.lookup_cons, integerIn_int hsecurity, integerIn_int hmaintainability,
    integerIn_int hcomplexity]

theorem advancedMetrics_ofAdvancedMetrics {m : AdvancedMetrics}
    (h : Engine.metricsViolations m = []) :
    advancedMetrics (Json.ofAdvancedMetrics m) = .valid m := by
  have hentropy : Bounds.natural.brokenByNumber m.entropyScore = none := by
    simpa [Engine.metricsViolations] using h
  simp only [advancedMetrics, Json.ofAdvancedMetrics, record_record, required_members,
    defaulted_members]
  simp [List.lookup_cons, numberIn_float hentropy]

theorem performanceImpact_ofPerformanceImpact {p : PerformanceImpact}
    (h : Bounds.percent.brokenBy p.score = none) :
    performanceImpact (Json.ofPerformanceImpact p) = .valid p := by
  simp only [performanceImpact, Json.ofPerformanceImpact, record_record, required_members,
    defaulted_members]
  simp [List.lookup_cons, integerIn_int h]

theorem metadata_ofMetadata {m : Metadata} (h : m.scanned.IsProper) :
    metadata (Json.ofMetadata m) = .valid m.inMinutes := by
  simp only [metadata, Json.ofMetadata, record_record, required_members]
  simp [List.lookup_cons, timestamp_text h, Metadata.inMinutes]

/-! ## 5. Reports -/

theorem reportMembers_reportMembers {r : Report} (h : r.InBounds)
    (hscanned : r.metadata.scanned.IsProper) (kind : InputKind) (others : List (String × Json)) :
    reportMembers kind ((Json.reportMembers r ++ others).map fun m => (Text.ofString m.1, m.2)) =
      .valid r.inMinutes := by
  have hfindings : listOf finding (.array (r.findings.map Json.ofFinding)) = .valid r.findings :=
    listOf_map fun f hf => finding_ofFinding (h.findings f hf)
  have hassessment : optional malwareAssessment (.optional Json.ofMalwareAssessment
      r.malwareAssessment) = .valid r.malwareAssessment :=
    optional_optional (fun _ => record_ne_null _) fun a ha =>
      malwareAssessment_ofMalwareAssessment (h.assessment a ha)
  have hmetrics : optional advancedMetrics (.optional Json.ofAdvancedMetrics r.advancedMetrics) =
      .valid r.advancedMetrics :=
    optional_optional (fun _ => record_ne_null _) fun m hm =>
      advancedMetrics_ofAdvancedMetrics (h.metrics m hm)
  simp only [reportMembers, Json.reportMembers, required_members, defaulted_members]
  simp [List.lookup_cons, integerIn_int h.threatCount, integerIn_int h.warningCount, hfindings,
    metadata_ofMetadata hscanned, hassessment, hmetrics, Report.inMinutes]

/-- **A report on a file comes back** from its untyped form. -/
theorem report_ofReport {r : Report} (h : r.InBounds) (hscanned : r.metadata.scanned.IsProper) :
    report (Json.ofReport (.file r)) = .valid r.inMinutes := by
  have hlevels : Level.pairing r.inMinutes.securityLevel r.inMinutes.riskLevel = [] := h.levels
  simp only [report, Json.ofReport, record_record, reportMembers_reportMembers h hscanned,
    Checked.andThen_valid, hlevels]
  rfl

/-- **A report on code comes back** from its untyped form. -/
theorem codeReport_ofReport {r : CodeReport} (h : r.InBounds)
    (hscanned : r.metadata.scanned.IsProper) :
    codeReport (Json.ofReport (.code r)) = .valid r.inMinutes := by
  have hlevels : Level.pairing r.inMinutes.securityLevel r.inMinutes.riskLevel = [] :=
    h.base.levels
  have hbase := reportMembers_reportMembers h.base hscanned .code
    (Json.codeMembers r ++ [Json.severityMember r.toReport])
  have hvulnerabilities : listOf vulnerabilityDetail (.array
      (r.detailedVulnerabilities.map Json.ofVulnerabilityDetail)) =
      .valid r.detailedVulnerabilities :=
    listOf_map fun v _ => vulnerabilityDetail_ofVulnerabilityDetail v
  have hsuggestions : listOf suggestion (.array (r.detailedSuggestions.map Json.ofSuggestion)) =
      .valid r.detailedSuggestions :=
    listOf_map fun s _ => suggestion_ofSuggestion s
  have hquality : optional codeQuality (.optional Json.ofCodeQuality r.codeQuality) =
      .valid r.codeQuality :=
    optional_optional (fun _ => record_ne_null _) fun q hq =>
      codeQuality_ofCodeQuality (h.quality q hq)
  have hperformance : optional performanceImpact (.optional Json.ofPerformanceImpact
      r.performanceImpact) = .valid r.performanceImpact :=
    optional_optional (fun _ => record_ne_null _) fun p hp =>
      performanceImpact_ofPerformanceImpact (h.performance p hp)
  have hmembers : codeReportMembers (.valid r.toReport.inMinutes) ((Json.reportMembers r.toReport ++
      (Json.codeMembers r ++ [Json.severityMember r.toReport])).map fun m =>
        (Text.ofString m.1, m.2)) = .valid r.inMinutes := by
    simp only [codeReportMembers, Json.reportMembers, Json.codeMembers, required_members,
      defaulted_members]
    simp [List.lookup_cons, integerIn_int h.linesOfCode, integerIn_int h.complexityScore,
      integerIn_int h.securityScore, hvulnerabilities, hsuggestions, hquality, hperformance,
      CodeReport.inMinutes]
  simp only [codeReport, Json.ofReport, record_record, List.append_assoc, hbase, hmembers,
    Checked.andThen_valid, hlevels]
  rfl

end Decode
end ThreatScan
