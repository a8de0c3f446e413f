/-
# Findings one by one

Whether a signature has a finding, and how often it occurs, can be read off its pattern alone: the
table that a search goes by plays no part in it (`inContent?_eq_scanContent?`,
`inLines_eq_scanLines`).

Line by line a signature has one finding for every line where it occurs, so the findings of a table
are counted by signature and line.  A signature that occurs wherever another one does has no fewer
findings, and it has one on each of the other's lines.
-/
import ThreatScan.Proofs.Pattern.Occurrence
import ThreatScan.Proofs.Scan.Matching
import ThreatScan.Proofs.Text.Lines
import Mathlib.Algebra.Order.BigOperators.Group.List

namespace ThreatScan
namespace Matching

/-! ## 1. Without a search table -/

/-- The finding of a signature in a whole content, by its pattern alone. -/
def scanContent? (content : Text) (s : Signature) : Option Finding :=
  match s.pattern.scan 0 content 0 with
  | [] => none
  | o :: os => some (finding s (os.length + 1) (o.text snippetLimit) none)

theorem inContent?_eq_scanContent? : inContent? = scanContent? := by
  funext content s
  rewrite [inContent?, scanContent?, Pattern.occurrences_eq_scan]
  cases s.pattern.scan 0 content 0 <;> rfl

/-- The findings of a signature in numbered lines, by its pattern alone. -/
def scanLines (lines : List (Text × ℕ)) (s : Signature) : List Finding :=
  lines.filterMap fun line =>
    let count := (s.pattern.scan 0 line.1 0).length
    if count = 0 then none
    else some (finding s count ((Text.trim line.1).take snippetLimit) (some line.2))

theorem inLines_eq_scanLines : inLines = scanLines := by
  funext lines s
  show lines.filterMap (inLine? s s.pattern.search) = _
  unfold scanLines
  congr 1
  funext line
  rw [← Pattern.count_eq_length_scan]
  rfl

/-- Whether a signature has a finding in a whole content, and what the finding says, follows from
its number of occurrences; only the snippet depends on the content itself. -/
theorem inContent?_eq (content : Text) (s : Signature) :
    ∃ snippet, inContent? content s =
      if s.pattern.count content = 0 then none
      else some (finding s (s.pattern.count content) snippet none) := by
  have hcount : s.pattern.count content = (s.pattern.occurrences content).length := rfl
  rw [inContent?, hcount]
  cases s.pattern.occurrences content with
  | nil => exact ⟨[], rfl⟩
  | cons o os => exact ⟨o.text snippetLimit, rfl⟩

/-- Findings that differ in parts other than their severities have the same counts. -/
theorem count_eq_of_map (g : Finding → Finding) (hg : ∀ f, (g f).severity = f.severity)
    {m m' : Matching} (h : m.findings.map g = m'.findings.map g) (severity : Level) :
    m.count severity = m'.count severity := by
  have hcount (m : Matching) : m.count severity =
      (m.findings.map g).countP fun f => f.severity = severity := by
    simp only [count, List.countP_map, Function.comp_def, hg]
  rw [hcount, hcount, h]

variable {lines : List (Text × ℕ)} {s s' : Signature}

/-! ## 2. One signature in lines -/

theorem inLine?_isSome (s : Signature) (line : Text × ℕ) :
    (inLine? s s.pattern.search line).isSome ↔ 0 < s.pattern.count line.1 := by
  rw [inLine?, Pattern.count]
  split
  case isTrue h => simp [h]
  case isFalse h => simpa using Nat.pos_of_ne_zero h

/-- There is a finding for every line where the signature occurs. -/
theorem length_inLines (lines : List (Text × ℕ)) (s : Signature) :
    (inLines lines s).length = lines.countP fun line => 0 < s.pattern.count line.1 := by
  rw [inLines, List.length_filterMap_eq_countP]
  refine List.countP_congr ?_
  intro line _
  rw [inLine?_isSome, decide_eq_true_eq]

/-- A finding tells the number of its line. -/
theorem mem_lineNumber_inLines {n : Option ℤ} :
    n ∈ (inLines lines s).map (·.lineNumber) ↔
      ∃ line ∈ lines, 0 < s.pattern.count line.1 ∧ n = some (line.2 : ℤ) := by
  rw [List.mem_map]
  constructor
  · rintro ⟨f, hf, rfl⟩
    obtain ⟨line, hline, hf⟩ := List.mem_filterMap.mp hf
    have hpos := (inLine?_isSome s line).mp (Option.isSome_of_eq_some hf)
    obtain ⟨count, snippet, -, rfl⟩ := eq_finding_of_inLine? hf
    exact ⟨line, hline, hpos, rfl⟩
  · rintro ⟨line, hline, hpos, rfl⟩
    obtain ⟨f, hf⟩ := Option.isSome_iff_exists.mp ((inLine?_isSome s line).mpr hpos)
    refine ⟨f, List.mem_filterMap.mpr ⟨line, hline, hf⟩, ?_⟩
    obtain ⟨count, snippet, -, rfl⟩ := eq_finding_of_inLine? hf
    rfl

section Covering

variable (h : ∀ line ∈ lines, 0 < s.pattern.count line.1 → 0 < s'.pattern.count line.1)
include h

theorem length_inLines_le : (inLines lines s).length ≤ (inLines lines s').length := by
  rw [length_inLines, length_inLines]
  refine List.countP_mono_left ?_
  intro line hline hpos
  exact decide_eq_true (h line hline (of_decide_eq_true hpos))

theorem lineNumber_inLines_subset :
    (inLines lines s).map (·.lineNumber) ⊆ (inLines lines s').map (·.lineNumber) := by
  intro n hn
  obtain ⟨line, hline, hpos, rfl⟩ := mem_lineNumber_inLines.mp hn
  exact mem_lineNumber_inLines.mpr ⟨line, hline, h line hline hpos, rfl⟩

end Covering

/-- No numbered line goes on beyond a line feed. -/
theorem newline_notMem_of_mem_numberedLines {content : Text} {line : Text × ℕ}
    (h : line ∈ numberedLines content) : Text.newline ∉ line.1 :=
  Text.newline_notMem_of_mem_lines (List.fst_mem_of_mem_zipIdx h)

/-- **The lines behind a line feed go on with the numbers.** -/
theorem numberedLines_append (a b : Text) :
    numberedLines (a ++ Text.newline :: b) = numberedLines a ++
      (numberedLines b).map (Prod.map id (· + (Text.lines a).length)) := by
  rw [numberedLines, Text.lines_append, List.zipIdx_append, numberedLines, numberedLines,
    List.map_snd_add_zipIdx_eq_zipIdx, Nat.add_comm]

/-! ## 3. A table in lines -/

/-- **The findings of a table are counted by signature**, if the signature decides what counts. -/
theorem countP_flatMap_inLines {p : Finding → Bool} {q : Signature → Bool}
    (h : ∀ s count snippet line, p (finding s count snippet line) = q s)
    (lines : List (Text × ℕ)) (table : List Signature) :
    (table.flatMap (inLines lines)).countP p =
      ((table.filter q).map fun s => (inLines lines s).length).sum := by
  have hone (s : Signature) : ∀ f ∈ inLines lines s, p f = q s := by
    intro f hf
    obtain ⟨line, -, count, snippet, -, rfl⟩ := eq_finding_of_mem_inLines hf
    exact h s count snippet _
  induction table with
  | nil => rfl
  | cons s table ih =>
    rw [List.flatMap_cons, List.countP_append, ih, List.filter_cons]
    split
    case isTrue hq =>
      have hall : (inLines lines s).countP p = (inLines lines s).length :=
        List.countP_eq_length.mpr fun f hf => (hone s f hf).trans hq
      rw [hall, List.map_cons, List.sum_cons]
    case isFalse hq =>
      have hnone : (inLines lines s).countP p = 0 :=
        List.countP_eq_zero.mpr fun f hf hp => hq ((hone s f hf).symm.trans hp)
      rw [hnone, zero_add]

/-- The findings of a severity are those of the signatures of this severity. -/
theorem count_ofLines {table : List Signature} (h : NoNegativeWeight table) (code : Text)
    (severity : Level) :
    (ofLines code table).count severity =
      ((table.filter fun s => s.severity = severity).map fun s =>
        (inLines (numberedLines code) s).length).sum := by
  have hseverity (s : Signature) (count : ℕ) (snippet : Text) (line : Option ℕ) :
      decide ((finding s count snippet line).severity = severity) =
        decide (s.severity = severity) :=
    rfl
  rw [count, ofLines_eq h, countP_flatMap_inLines hseverity]

/-- Covering signatures, one for each, have no fewer findings in all. -/
theorem sum_length_inLines_le {ss ss' : List Signature}
    (h : List.Forall₂ (fun s s' => (inLines lines s).length ≤ (inLines lines s').length) ss ss') :
    (ss.map fun s => (inLines lines s).length).sum ≤
      (ss'.map fun s => (inLines lines s).length).sum :=
  List.Forall₂.sum_le_sum (List.forall₂_map_left_iff.mpr (List.forall₂_map_right_iff.mpr h))

end Matching
end ThreatScan
