/-
# What the evidence of a content adds up to

A signature that occurs has its label among those of the matching (`mem_labels_ofContent`), and its
weight in the score.  So, with weights above zero, the score is positive as soon as one signature
occurs, and a content in which no signature occurs less often has no lower a score (`rises_score`).
What the analyzer makes of a score, the share of three and the cut at one, hands both on
(`patterns_atMost`, `less_score_patterns`), however many occurrences there are.
-/
import ThreatScan.Proofs.Assess.Answer
import ThreatScan.Proofs.Number.Rising
import ThreatScan.Proofs.Scan.Lines
import ThreatScan.Proofs.Text.Basic

namespace ThreatScan

open Binary64

/-! ## 1. Positive weights -/

/-- All weights of the table are finite and above zero. -/
def PositiveWeights (table : List Signature) : Prop :=
  ∀ s ∈ table, s.weight.isFinite = true ∧ less 0 s.weight = true

theorem Catalog.positiveWeights_default (t : Table) : PositiveWeights (default.table t) := by
  cases t <;> unfold PositiveWeights <;> decide +kernel

/-- A table of positive weights has no negative ones. -/
theorem PositiveWeights.noNegativeWeight {table : List Signature} (h : PositiveWeights table) :
    NoNegativeWeight table := by
  intro s hs
  obtain ⟨q, hq, hweight⟩ := exists_finite (h s hs).1 (h s hs).2
  rw [hweight]
  exact ⟨hq.le, by simp⟩

namespace Matching

variable {table : List Signature} {content content' : Text}

/-- A finding in a content is of a signature that occurs there. -/
theorem exists_of_inContent? {s : Signature} {f : Finding} (h : inContent? content s = some f) :
    0 < s.pattern.count content ∧
      ∃ snippet, f = finding s (s.pattern.count content) snippet none := by
  obtain ⟨snippet, heq⟩ := inContent?_eq content s
  rw [heq] at h
  split at h
  case isTrue => cases h
  case isFalse hne => exact ⟨Nat.pos_of_ne_zero hne, snippet, (Option.some.inj h).symm⟩

theorem mem_labels_ofContent (h : NoNegativeWeight table) {label : Text} :
    label ∈ (ofContent content table).labels ↔
      ∃ s ∈ table, 0 < s.pattern.count content ∧ s.label = label := by
  rw [labels, Text.mem_firstOfEach, ofContent_eq h, List.mem_map]
  constructor
  · rintro ⟨f, hf, rfl⟩
    obtain ⟨s, hs, hf⟩ := List.mem_filterMap.mp hf
    obtain ⟨hpos, snippet, rfl⟩ := exists_of_inContent? hf
    exact ⟨s, hs, hpos, rfl⟩
  · rintro ⟨s, hs, hpos, rfl⟩
    obtain ⟨snippet, heq⟩ := inContent?_eq content s
    rw [if_neg hpos.ne'] at heq
    exact ⟨_, List.mem_filterMap.mpr ⟨s, hs, heq⟩, rfl⟩

/-! ## 2. Sums -/

theorem weight_finding (h : PositiveWeights table) {s : Signature} (hs : s ∈ table) (count : ℕ)
    (snippet : Text) (line : Option ℕ) :
    (finding s count snippet line).weight = s.weight * ofNat count := by
  obtain ⟨q, hq, hweight⟩ := exists_finite (h s hs).1 (h s hs).2
  refine if_neg ?_
  rw [hweight]
  simpa [toRat?] using hq.ne'

/-- More occurrences weigh more. -/
theorem rises_weight (h : PositiveWeights table) {s : Signature} (hs : s ∈ table) {m n : ℕ}
    (hmn : m ≤ n) (snippet snippet' : Text) :
    Rises (finding s m snippet none).weight (finding s n snippet' none).weight := by
  obtain ⟨q, hq, hweight⟩ := exists_finite (h s hs).1 (h s hs).2
  rw [weight_finding h hs, weight_finding h hs, hweight]
  exact (Rises.ofRat (Nat.cast_nonneg m) (Nat.cast_le.mpr hmn)).mul hq

/-- A sum does not fall below what it starts from. -/
theorem rises_foldl_weight {fs : List Finding} (hfs : ∀ f ∈ fs, IsScore f.weight)
    {a b : Binary64} (hab : Rises a b) : Rises a (fs.foldl (fun x f => x + f.weight) b) := by
  induction fs generalizing b with
  | nil => exact hab
  | cons f fs ih =>
    obtain ⟨hf, hfs⟩ := List.forall_mem_cons.mp hfs
    exact ih hfs (hab.le_add hf)

theorem isScore_foldl_weight {fs : List Finding} (hfs : ∀ f ∈ fs, IsScore f.weight)
    {a : Binary64} (ha : IsScore a) : IsScore (fs.foldl (fun x f => x + f.weight) a) := by
  induction fs generalizing a with
  | nil => exact ha
  | cons f fs ih =>
    obtain ⟨hf, hfs⟩ := List.forall_mem_cons.mp hfs
    exact ih hfs (ha.add hf)

theorem isScore_weight (h : PositiveWeights table) :
    ∀ f ∈ table.filterMap (inContent? content), IsScore f.weight := by
  intro f hf
  obtain ⟨s, hs, hf⟩ := List.mem_filterMap.mp hf
  obtain ⟨-, snippet, rfl⟩ := exists_of_inContent? hf
  exact (rises_weight h hs le_rfl snippet snippet).isScore

/-- **The score of a content where no signature occurs less often is no lower.** -/
theorem rises_score (h : PositiveWeights table)
    (hcount : ∀ s ∈ table, s.pattern.count content ≤ s.pattern.count content') :
    Rises (ofContent content table).score (ofContent content' table).score := by
  rw [ofContent_eq h.noNegativeWeight, ofContent_eq h.noNegativeWeight, score, score]
  suffices hsum : ∀ {a b : Binary64}, Rises a b →
      Rises ((table.filterMap (inContent? content)).foldl (fun x f => x + f.weight) a)
        ((table.filterMap (inContent? content')).foldl (fun x f => x + f.weight) b) by
    exact hsum isScore_zero.rises
  induction table with
  | nil => exact id
  | cons s table ih =>
    intro a b hab
    obtain ⟨hle, hcount⟩ := List.forall_mem_cons.mp hcount
    have hs : s ∈ s :: table := List.mem_cons_self
    have hrest := @ih (fun s hs => h s (List.mem_cons_of_mem _ hs)) hcount
    obtain ⟨snippet, heq⟩ := inContent?_eq content s
    obtain ⟨snippet', heq'⟩ := inContent?_eq content' s
    by_cases hzero : s.pattern.count content = 0
    · rw [if_pos hzero] at heq
      rw [List.filterMap_cons_none heq]
      by_cases hzero' : s.pattern.count content' = 0
      · rw [if_pos hzero'] at heq'
        rw [List.filterMap_cons_none heq']
        exact hrest hab
      · rw [if_neg hzero'] at heq'
        rw [List.filterMap_cons_some heq']
        exact hrest (hab.le_add (rises_weight h hs le_rfl snippet' snippet').isScore)
    · rw [if_neg hzero] at heq
      rw [if_neg (by omega)] at heq'
      rw [List.filterMap_cons_some heq, List.filterMap_cons_some heq']
      exact hrest (hab.add (rises_weight h hs hle snippet snippet'))

theorem isScore_score (h : PositiveWeights table) : IsScore (ofContent content table).score := by
  have hrises : Rises (ofContent content table).score (ofContent content table).score :=
    rises_score h fun _ _ => le_rfl
  exact hrises.isScore

/-- **A signature that occurs has its weight in the score.** -/
theorem weight_rises_score (h : PositiveWeights table) {s : Signature} (hs : s ∈ table)
    (hpos : 0 < s.pattern.count content) :
    Rises (s.weight * 1) (ofContent content table).score := by
  obtain ⟨snippet, heq⟩ := inContent?_eq content s
  rw [if_neg hpos.ne'] at heq
  have hmem := List.mem_filterMap.mpr ⟨s, hs, heq⟩
  have hscores : ∀ f ∈ table.filterMap (inContent? content), IsScore f.weight := isScore_weight h
  rw [ofContent_eq h.noNegativeWeight, score]
  obtain ⟨before, after, hsplit⟩ := List.append_of_mem hmem
  rw [hsplit] at hscores ⊢
  obtain ⟨hbefore, hafter⟩ := List.forall_mem_append.mp hscores
  obtain ⟨-, hafter⟩ := List.forall_mem_cons.mp hafter
  have hsum : IsScore (before.foldl (fun x f => x + f.weight) 0) :=
    isScore_foldl_weight hbefore isScore_zero
  have hrises := (rises_weight h hs hpos [] snippet).le_add hsum
  rw [weight_finding h hs (Nat.succ 0)] at hrises
  rw [List.foldl_append, List.foldl_cons, Binary64.add_comm]
  exact rises_foldl_weight hafter hrises

/-- The occurrences of all signatures together. -/
theorem matchCount_table (h : NoNegativeWeight table) :
    (ofContent content table).matchCount =
      ((table.map fun s => s.pattern.count content).sum : ℕ) := by
  rw [matchCount_eq_sum, ofContent_eq h]
  clear h
  induction table with
  | nil => rfl
  | cons s table ih =>
    obtain ⟨snippet, heq⟩ := inContent?_eq content s
    rw [List.map_cons, List.sum_cons]
    by_cases hzero : s.pattern.count content = 0
    · rw [if_pos hzero] at heq
      rw [List.filterMap_cons_none heq, ih, hzero, Nat.zero_add]
    · rw [if_neg hzero] at heq
      rw [List.filterMap_cons_some heq, List.map_cons, List.sum_cons, ih]
      exact (Int.natCast_add _ _).symm

theorem matchCount_le (h : NoNegativeWeight table)
    (hcount : ∀ s ∈ table, s.pattern.count content ≤ s.pattern.count content') :
    (ofContent content table).matchCount ≤ (ofContent content' table).matchCount := by
  rw [matchCount_table h, matchCount_table h]
  exact_mod_cast List.sum_le_sum hcount

end Matching

/-! ## 3. The pattern score -/

namespace MalwareAnalyzer

variable {m : MalwareAnalyzer} {content content' : Text}

theorem isScore_executableScore : IsScore executableScore :=
  isScore_ofRat (Rat.ofScientific_nonneg 3 true 1)

/-- A share of three, cut at one, keeps the order. -/
theorem share_atMost {a b : Binary64} (h : Rises a b) :
    (least (a / 3) 1).atMost (least (b / 3) 1) = true := by
  have hthree : (3 : Binary64) = .finite 3 := by exact_mod_cast ofNat_eq (n := 3) (by norm_num)
  rw [hthree]
  exact (h.div (by norm_num)).least_atMost (by simp)

/-- **More evidence is no lower a pattern score, and no less certain.** -/
theorem patterns_atMost (h : PositiveWeights m.catalog.advancedMalware)
    (hcount : ∀ s ∈ m.catalog.advancedMalware,
      s.pattern.count content ≤ s.pattern.count content') (name : Text) :
    (m.patterns content name).score.atMost (m.patterns content' name).score = true ∧
      (m.patterns content name).confidence.atMost (m.patterns content' name).confidence = true := by
  constructor
  · simp only [patterns, patternScore]
    split
    · exact share_atMost ((Matching.rises_score h hcount).add isScore_executableScore.rises)
    · exact share_atMost (Matching.rises_score h hcount)
  · obtain ⟨q, hq, hfifth⟩ : ∃ q : ℚ, 0 < q ∧ (0.2 : Binary64) = .finite q :=
      exists_finite (by decide +kernel) (by decide +kernel)
    simp only [patterns, patternScore]
    rw [hfifth, Binary64.mul_comm, Binary64.mul_comm _ (.finite q)]
    have hrises := Rises.ofInt Matching.matchCount_ofContent_nonneg
      (Matching.matchCount_le h.noNegativeWeight hcount)
    exact (hrises.mul hq).least_atMost (by simp)

/-- **Evidence of any kind is a positive pattern score.** -/
theorem less_score_patterns (h : PositiveWeights m.catalog.advancedMalware)
    (hshare : ∀ s ∈ m.catalog.advancedMalware, less 0 (least (s.weight * 1 / 3) 1) = true)
    {name : Text} (hevidence : (∃ s ∈ m.catalog.advancedMalware, 0 < s.pattern.count content) ∨
      isExecutable m.catalog.executableExtensions name = true) :
    less 0 (m.patterns content name).score = true := by
  have hscore : IsScore (Matching.ofContent content m.catalog.advancedMalware).score :=
    Matching.isScore_score h
  simp only [patterns, patternScore]
  rcases hevidence with ⟨s, hs, hpos⟩ | hexecutable
  · have hrises := Matching.weight_rises_score h hs hpos
    refine less_of_less_of_atMost (hshare s hs) (share_atMost ?_)
    split
    · exact hrises.le_add isScore_executableScore
    · exact hrises
  · have hshare' : less 0 (least (executableScore / 3) 1) = true := by decide +kernel
    rw [if_pos hexecutable, Binary64.add_comm]
    have hrises := isScore_executableScore.rises.le_add hscore
    exact less_of_less_of_atMost hshare' (share_atMost hrises)

end MalwareAnalyzer
end ThreatScan
