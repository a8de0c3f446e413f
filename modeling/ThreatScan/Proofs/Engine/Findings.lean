/-
# The findings in code are those of the table

A hit is a signature of the table and a line of the code where it occurs.  The report on code has
one finding for every hit and no other, by signature and then by line, and its three lists run side
by side: what the finding, the vulnerability and its detail at one place say is what the signature
and the line of one hit say (`scanCode_recordsHits`).

The description is the only part that takes a detour: the detail looks it up by the id of the rule,
so it is that of the signature as long as no two signatures of the table share an id
(`description_eq`).
-/
import ThreatScan.Proofs.Engine.Outcome
import ThreatScan.Proofs.Scan.Findings
import Mathlib.Data.List.Nodup
import Mathlib.Data.Prod.Lex

namespace ThreatScan

/-! ## 1. Hits -/

/-- A signature and a line, with the place of the one in its table, from zero, and the number of the
other in its text, from one. -/
structure Hit where
  place : ℕ
  signature : Signature
  number : ℕ
  line : Text

namespace Hit

/-- The signature is that of the table at this place, the line is that of the code with this number,
and the signature occurs in the line. -/
def IsIn (h : Hit) (table : List Signature) (code : Text) : Prop :=
  table[h.place]? = some h.signature ∧
    1 ≤ h.number ∧ (Text.lines code)[h.number - 1]? = some h.line ∧
      0 < h.signature.pattern.count h.line

/-- One hit comes before another one: by signature and then by line. -/
def Before (a b : Hit) : Prop := Prod.Lex (· < ·) (· < ·) (a.place, a.number) (b.place, b.number)

/-- The finding that a hit calls for. -/
def finding (h : Hit) : Finding where
  ruleId := h.signature.ruleId
  label := h.signature.label
  severity := h.signature.severity
  category := h.signature.category
  weight := h.signature.weight.times (h.signature.pattern.count h.line)
  matchCount := h.signature.pattern.count h.line
  lineNumber := some h.number
  snippet := (Text.trim h.line).take 200

/-- The detail that a hit calls for. -/
def detail (h : Hit) : VulnerabilityDetail :=
  ⟨h.signature.severity, h.signature.label, h.signature.description, h.number⟩

/-- The hits of one signature in numbered lines. -/
def ofLines (lines : List (Text × ℕ)) (s : Signature × ℕ) : List Hit :=
  (lines.filter fun line => 0 < s.1.pattern.count line.1).map fun line => ⟨s.2, s.1, line.2, line.1⟩

/-- The hits of a table in a text. -/
def ofTable (code : Text) (table : List Signature) : List Hit :=
  table.zipIdx.flatMap (ofLines (Matching.numberedLines code))

variable {code : Text} {table : List Signature}

theorem mem_ofTable (h : Hit) : h ∈ ofTable code table ↔ h.IsIn table code := by
  rw [ofTable, List.mem_flatMap]
  constructor
  · rintro ⟨s, hs, hmem⟩
    obtain ⟨line, hline, rfl⟩ := List.mem_map.mp hmem
    obtain ⟨hline, hpos⟩ := List.mem_filter.mp hline
    obtain ⟨hnumber, hget⟩ := List.mk_mem_zipIdx_iff_le_and_getElem?_sub.mp hline
    exact ⟨List.mem_zipIdx_iff_getElem?.mp hs, hnumber, hget, of_decide_eq_true hpos⟩
  · rintro ⟨hplace, hnumber, hget, hpos⟩
    refine ⟨(h.signature, h.place), List.mem_zipIdx_iff_getElem?.mpr hplace, ?_⟩
    refine List.mem_map.mpr ⟨(h.line, h.number), List.mem_filter.mpr ⟨?_, decide_eq_true hpos⟩, rfl⟩
    exact List.mk_mem_zipIdx_iff_le_and_getElem?_sub.mpr ⟨hnumber, hget⟩

/-- The numbers of numbered entries ascend. -/
theorem pairwise_zipIdx {α : Type} (xs : List α) (n : ℕ) :
    (xs.zipIdx n).Pairwise fun a b => a.2 < b.2 := by
  have h : ((xs.zipIdx n).map Prod.snd).Pairwise (· < ·) := by
    rw [List.zipIdx_map_snd]
    exact List.pairwise_lt_range'
  exact List.pairwise_map.mp h

theorem ordered_ofTable (code : Text) (table : List Signature) :
    (ofTable code table).Pairwise Before := by
  rw [ofTable, List.pairwise_flatMap]
  constructor
  · intro s _
    rw [ofLines, List.pairwise_map]
    refine ((pairwise_zipIdx _ 1).filter _).imp ?_
    intro line line' hlt
    exact Prod.Lex.right s.2 hlt
  · refine (pairwise_zipIdx table 0).imp ?_
    intro s s' hlt a ha b hb
    obtain ⟨line, -, rfl⟩ := List.mem_map.mp ha
    obtain ⟨line', -, rfl⟩ := List.mem_map.mp hb
    exact Prod.Lex.left _ _ hlt

/-- A signature has a finding for each of its hits. -/
theorem map_finding_ofLines (lines : List (Text × ℕ)) (s : Signature × ℕ) :
    (ofLines lines s).map finding = Matching.inLines lines s.1 := by
  rw [ofLines, List.map_map, Matching.inLines, ← List.filterMap_eq_map, List.filterMap_filter]
  refine List.filterMap_congr ?_
  intro line _
  have hcount : s.1.pattern.search.count line.1 = s.1.pattern.count line.1 := rfl
  by_cases hpos : s.1.pattern.count line.1 = 0
  · simp [Matching.inLine?, hcount, hpos]
  · have hlt : 0 < s.1.pattern.count line.1 := Nat.pos_of_ne_zero hpos
    simp [Matching.inLine?, hcount, hpos, hlt]
    rfl

theorem map_finding_ofTable (code : Text) (table : List Signature) :
    (ofTable code table).map finding =
      table.flatMap (Matching.inLines (Matching.numberedLines code)) := by
  have htable : table = table.zipIdx.map Prod.fst := by simp
  conv_rhs => rw [htable]
  simp only [ofTable, List.map_flatMap, List.flatMap_map, map_finding_ofLines]

end Hit

/-! ## 2. Descriptions -/

/-- **A rule with an id of its own is described by its own signature.** -/
theorem CodeFacts.description_eq {table : List Signature} (hids : (table.map (·.ruleId)).Nodup)
    {s : Signature} (hs : s ∈ table) :
    description (table.map fun s => (s.ruleId, s.description)) s.ruleId = s.description := by
  obtain ⟨before, after, rfl⟩ := List.append_of_mem hs
  have hafter : ∀ s' ∈ after, s.ruleId ≠ s'.ruleId := by
    intro s' hs'
    rw [List.map_append, List.map_cons] at hids
    have hnotMem := (List.nodup_cons.mp (List.nodup_append.mp hids).2.1).1
    exact fun heq => hnotMem (heq ▸ List.mem_map_of_mem hs')
  have hlookup : ((before ++ s :: after).map fun s => (s.ruleId, s.description)).reverse.lookup
      s.ruleId = some s.description := by
    rw [List.lookup_eq_some_iff]
    refine ⟨(after.map fun s => (s.ruleId, s.description)).reverse,
      (before.map fun s => (s.ruleId, s.description)).reverse, by simp, ?_⟩
    intro entry hentry
    obtain ⟨s', hs', rfl⟩ := List.mem_map.mp (List.mem_reverse.mp hentry)
    exact bne_iff_ne.mpr (hafter s' hs')
  rw [description, hlookup, Option.getD_some]

/-! ## 3. Reports -/

/-- The report records these hits, which are all that a table has in the code. -/
structure CodeReport.RecordsHits (r : CodeReport) (table : List Signature) (code : Text)
    (hits : List Hit) : Prop where
  all : ∀ h, h ∈ hits ↔ h.IsIn table code
  ordered : hits.Pairwise Hit.Before
  findings : r.findings = hits.map Hit.finding
  vulnerabilities : r.vulnerabilities = hits.map (·.signature.label)
  details : r.detailedVulnerabilities = hits.map Hit.detail
  linesOfCode : r.linesOfCode = (Text.lines code).length
  numbers : ∀ f ∈ r.findings, ∃ n ∈ f.lineNumber, 1 ≤ n ∧ n ≤ r.linesOfCode

namespace Engine

/-- A report on code keeps the findings of the matching as they are. -/
theorem findings_of_scanCode {e : Engine} {code : Text} {sampler : Sampler} {r : CodeReport}
    (h : (e.scanCode code sampler).1.outcome = .ok r) :
    r.findings = (Matching.ofLines code e.catalog.vulnerabilities).findings := by
  obtain ⟨-, -, contentHash, -, -, performance, -, rfl⟩ :=
    (e.scanCode_eq_ok_iff code sampler).mp h
  rfl

theorem recordsHits_codeReport {e : Engine} (hweights : NoNegativeWeight e.catalog.vulnerabilities)
    (hids : (e.catalog.vulnerabilities.map (·.ruleId)).Nodup) (code : Text) (sampler : Sampler)
    (contentHash : Text) (performance : PerformanceImpact) :
    (e.codeReport code sampler contentHash performance).RecordsHits e.catalog.vulnerabilities code
      (Hit.ofTable code e.catalog.vulnerabilities) := by
  have hfindings : (e.codeReport code sampler contentHash performance).findings =
      (Hit.ofTable code e.catalog.vulnerabilities).map Hit.finding := by
    rw [Hit.map_finding_ofTable]
    exact congrArg Matching.findings (Matching.ofLines_eq hweights)
  have hdetails : (e.codeReport code sampler contentHash performance).detailedVulnerabilities =
      (Hit.ofTable code e.catalog.vulnerabilities).map Hit.detail := by
    show (e.codeReport code sampler contentHash performance).findings.map _ = _
    rw [hfindings, List.map_map]
    refine List.map_congr_left ?_
    intro h hmem
    have hs : h.signature ∈ e.catalog.vulnerabilities :=
      List.mem_of_getElem? ((Hit.mem_ofTable h).mp hmem).1
    have hdescription := CodeFacts.description_eq hids hs
    simp only [Function.comp_apply, CodeFacts.detail, Hit.finding, Hit.detail, codeFacts,
      hdescription, Option.getD_some]
  constructor
  case all => exact Hit.mem_ofTable
  case ordered => exact Hit.ordered_ofTable code _
  case findings => exact hfindings
  case details => exact hdetails
  case vulnerabilities =>
    show (e.codeReport code sampler contentHash performance).detailedVulnerabilities.map _ = _
    rw [hdetails, List.map_map]
    rfl
  case linesOfCode => rfl
  case numbers =>
    rw [hfindings]
    intro f hf
    obtain ⟨h, hmem, rfl⟩ := List.mem_map.mp hf
    obtain ⟨-, hnumber, hget, -⟩ := (Hit.mem_ofTable h).mp hmem
    obtain ⟨hlt, -⟩ := List.getElem?_eq_some_iff.mp hget
    refine ⟨h.number, rfl, by exact_mod_cast hnumber, ?_⟩
    show (h.number : ℤ) ≤ ((Text.lines code).length : ℕ)
    omega

/-- **The findings of a report on code are sound and complete**: there is one for every signature
and every line where it occurs, in this order, and the vulnerabilities and their details say the
same at every place. -/
theorem scanCode_recordsHits (e : Engine) (code : Text) (sampler : Sampler) {r : CodeReport}
    (hweights : NoNegativeWeight e.catalog.vulnerabilities)
    (hids : (e.catalog.vulnerabilities.map (·.ruleId)).Nodup)
    (h : (e.scanCode code sampler).1.outcome = .ok r) :
    ∃ hits, r.RecordsHits e.catalog.vulnerabilities code hits := by
  obtain ⟨-, -, contentHash, -, -, performance, -, rfl⟩ :=
    (e.scanCode_eq_ok_iff code sampler).mp h
  exact ⟨_, recordsHits_codeReport hweights hids code sampler contentHash performance⟩

/-- Two passwords on the first line and a command on the third. -/
theorem scanCode_recordsHits_of_two :
    NoNegativeWeight Catalog.default.vulnerabilities ∧
      (Catalog.default.vulnerabilities.map (·.ruleId)).Nodup ∧
      ∃ r hits, ((ofSettings {} Catalog.default (fun _ => .late) none default).scanCode
          "password='a', password='b'\n\n  system($_GET)" (.fixed 50)).1.outcome = .ok r ∧
        r.RecordsHits Catalog.default.vulnerabilities
          "password='a', password='b'\n\n  system($_GET)" hits ∧
        r.findings.map (fun f => (f.ruleId, f.lineNumber, f.matchCount, f.snippet)) =
          [(Text.ofString "TL-VULN-003", some 1, 2, Text.ofString "password='a', password='b'"),
            (Text.ofString "TL-VULN-005", some 3, 1, Text.ofString "system($_GET)")] := by
  have hweights : NoNegativeWeight Catalog.default.vulnerabilities :=
    Catalog.noNegativeWeight_default .vulnerabilities
  have hids : (Catalog.default.vulnerabilities.map (·.ruleId)).Nodup := by decide +kernel
  obtain ⟨r, hr, -⟩ := exists_scanCode_eq_ok {} (fun _ => .late) none default
    "password='a', password='b'\n\n  system($_GET)" (.fixed 50) (by decide +kernel)
    (by decide +kernel)
  obtain ⟨hits, hhits⟩ := scanCode_recordsHits _ _ _ hweights hids hr
  refine ⟨hweights, hids, r, hits, hr, hhits, ?_⟩
  have hfindings : r.findings = _ :=
    (findings_of_scanCode hr).trans (congrArg Matching.findings (Matching.ofLines_eq hweights))
  rw [hfindings, Matching.inLines_eq_scanLines]
  decide +kernel

end Engine
end ThreatScan
