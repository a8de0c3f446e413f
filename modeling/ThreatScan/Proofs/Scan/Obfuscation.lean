/-
# The obfuscation score in closed form

Every sign of obfuscation is counted in its own way.  Escapes, and calls that evaluate text, cannot
begin within one another, so all their places count.  Names of encodings can overlap, and a search
takes as many as can be chosen without overlap.  Letters and digits count by the run, and only if
the run is long (`Signs`).

The score is the sum of the four counts by weight (`obfuscation_eq`).  As long as it stays below
2⁵³ it is exact; beyond that it is rounded, but no rounding can take it across the bounds of the
level, which are small.
-/
import ThreatScan.Proofs.Assess.Evidence
import ThreatScan.Proofs.Number.Counting
import ThreatScan.Proofs.Pattern.Places
import ThreatScan.Proofs.Pattern.Runs
import ThreatScan.Proofs.Scan.Indication
import ThreatScan.Proofs.Scan.Words
import ThreatScan.Proofs.Text.Capitals

namespace ThreatScan

open Binary64
open Text (IsAlphanumeric IsHexDigit StandsAt choiceSizes longRuns)

/-! ## 1. Scores of positive weights -/

namespace Matching

/-- **A score is the sum of all counts by weight**: a signature that does not occur adds zero, and
that changes nothing. -/
theorem score_eq_foldl {table : List Signature} (h : PositiveWeights table) (content : Text) :
    (ofContent content table).score =
      table.foldl (fun x s => x + s.weight * ofNat (s.pattern.count content)) 0 := by
  rw [ofContent_eq h.noNegativeWeight, score]
  suffices hsum : ∀ {x : Binary64}, IsRounded x →
      (table.filterMap (inContent? content)).foldl (fun x f => x + f.weight) x =
        table.foldl (fun x s => x + s.weight * ofNat (s.pattern.count content)) x by
    exact hsum isRounded_zero
  induction table with
  | nil => exact fun _ => rfl
  | cons s table ih =>
    intro x hx
    have hrest := @ih fun s hs => h s (List.mem_cons_of_mem _ hs)
    obtain ⟨q, hq, hweight⟩ := exists_finite (h s List.mem_cons_self).1 (h s List.mem_cons_self).2
    have hterm : IsRounded (s.weight * ofNat (s.pattern.count content)) := by
      rw [hweight]
      exact (isRounded_ofNat _).mul hq
    obtain ⟨snippet, heq⟩ := inContent?_eq content s
    rw [List.foldl_cons]
    by_cases hzero : s.pattern.count content = 0
    · rw [if_pos hzero] at heq
      have hnothing : s.weight * ofNat (s.pattern.count content) = 0 := by
        rw [hzero, hweight]
        show (.finite q : Binary64) * 0 = 0
        rw [zero_eq, finite_mul_finite hq.le le_rfl, mul_zero]
        exact zero_eq
      rw [List.filterMap_cons_none heq, hnothing, hx.add_zero_eq]
      exact hrest hx
    · rw [if_neg hzero] at heq
      rw [List.filterMap_cons_some heq, List.foldl_cons, weight_finding h List.mem_cons_self]
      exact hrest (hx.add hterm)

end Matching

/-! ## 2. The four signs -/

namespace Indication

variable {content : Text}

/-- A backslash, an x and two hexadecimal digits, the letters in any case. -/
def IsEscape (w : Text) : Prop :=
  ∃ x d d', w = [92, x, d, d'] ∧ (x = 120 ∨ x = 88) ∧ IsHexDigit d ∧ IsHexDigit d'

/-- How often the content has each sign of obfuscation. -/
structure Signs (content : Text) (h e d r : ℕ) : Prop where
  /-- Places of escapes. -/
  escapes : {i | IsEscape ((content.drop i).take 4)}.encard = h
  /-- Names of encodings, as many as can stand there without overlap. -/
  encodings : IsGreatest (choiceSizes ["base64", "atob", "btoa"] content) e
  /-- Places of calls that evaluate text. -/
  evaluations : {i | ∃ t ∈ (["eval(", "Function("] : List Text), StandsAt t content i}.encard = d
  /-- Maximal runs of at least fifty letters and digits. -/
  runs : (longRuns IsAlphanumeric 50 content).encard = r

/-- The classes of an escape, one after the other. -/
def escapeClasses : List CharClass := [.letter 92, .letter 120, .hexDigit, .hexDigit]

theorem fits_escapeClasses {w : Text} : Pattern.Fits escapeClasses w ↔ IsEscape w := by
  simp only [Pattern.Fits, escapeClasses, List.forall₂_cons_left_iff, List.forall₂_nil_left_iff,
    CharClass.has_letter_backslash, CharClass.has_letter_x, CharClass.has_hexDigit, IsEscape]
  constructor
  · rintro ⟨_, _, rfl, ⟨x, _, hx, ⟨d, _, hd, ⟨d', _, hd', rfl, rfl⟩, rfl⟩, rfl⟩, rfl⟩
    exact ⟨x, d, d', rfl, hx, hd, hd'⟩
  · rintro ⟨x, d, d', rfl, hx, hd, hd'⟩
    exact ⟨92, _, rfl, ⟨x, _, hx, ⟨d, _, hd, ⟨d', _, hd', rfl, rfl⟩, rfl⟩, rfl⟩, rfl⟩

theorem accepts_hexEscape {w : Text} : Shipped.hexEscape.Accepts w ↔ IsEscape w := by
  rw [← fits_escapeClasses]
  constructor
  · rintro ⟨u, v, rfl, hu, hv⟩
    exact List.rel_append hu hv
  · intro h
    refine ⟨w.take 2, w.drop 2, (List.take_append_drop 2 w).symm, ?_, ?_⟩
    · exact List.forall₂_take 2 h
    · exact List.forall₂_drop 2 h

theorem takesApart_hexEscape : Shipped.hexEscape.TakesApart [escapeClasses] where
  plain := rfl
  length := by decide
  accepts w := by
    rw [accepts_hexEscape, ← fits_escapeClasses]
    simp
  apart := by decide +kernel

/-- **Escapes count by their places.** -/
theorem encard_escapes (content : Text) :
    {i | IsEscape ((content.drop i).take 4)}.encard = Shipped.hexEscape.count content := by
  have hplaces : Shipped.hexEscape.placesIn content =
      {i | IsEscape ((content.drop i).take 4)} := by
    ext i
    constructor
    · rintro ⟨w, r, hdrop, hw⟩
      have hescape := accepts_hexEscape.mp hw
      have hlength : w.length = 4 := by
        obtain ⟨x, d, d', rfl, -⟩ := hescape
        rfl
      rwa [Set.mem_ofPred_eq, hdrop, ← hlength, List.take_left]
    · intro hi
      exact ⟨_, (content.drop i).drop 4, (List.take_append_drop 4 _).symm,
        accepts_hexEscape.mpr hi⟩
  rw [← hplaces, takesApart_hexEscape.encard_placesIn]

/-- **Each sign is counted by its own pattern.** -/
theorem signs_count (content : Text) :
    Signs content (Shipped.hexEscape.count content)
      ((Pattern.words ["base64", "atob", "btoa"]).count content)
      ((Pattern.words ["eval(", "Function("]).count content)
      ((Pattern.many .alphanumericAnyCase 50 false).count content) where
  escapes := encard_escapes content
  encodings := Pattern.isGreatest_count_words (by decide) (by decide) (by decide +kernel) content
  evaluations := by
    have hapart : (Pattern.words ["eval(", "Function("]).TakesApart _ :=
      Pattern.takesApart_words (by decide) (by decide) (by decide +kernel)
    rw [← Pattern.placesIn_words (by decide) (by decide), hapart.encard_placesIn]
  runs := by
    have hkind : IsAlphanumeric = fun x => CharClass.alphanumericAnyCase.has x = true :=
      funext fun x => propext (CharClass.has_alphanumericAnyCase x).symm
    rw [hkind, Pattern.encard_longRuns (by decide)]

/-! ## 3. The closed form -/

theorem two_mul_eq (n : ℕ) : 2 * ofNat n = .finite (2 : ℕ) * ofNat n :=
  congrArg (· * ofNat n) (ofNat_eq (n := 2) (by norm_num))

theorem three_mul_eq (n : ℕ) : 3 * ofNat n = .finite (3 : ℕ) * ofNat n :=
  congrArg (· * ofNat n) (ofNat_eq (n := 3) (by norm_num))

/-- As a double the total of the counts is exact as far as doubles are. -/
theorem isCount_total (h e d r : ℕ) :
    IsCount (2 * ofNat h + ofNat e + 3 * ofNat d + ofNat r) (2 * h + e + 3 * d + r) := by
  rw [two_mul_eq, three_mul_eq]
  exact ((((isCount_ofNat h).mul two_pos).add (isCount_ofNat e)).add
    ((isCount_ofNat d).mul three_pos)).add (isCount_ofNat r)

/-- **The score is the sum of the four counts by weight.** -/
theorem score_obfuscation (content : Text) :
    (Matching.ofContent content Catalog.default.obfuscation).score =
      2 * ofNat (Shipped.hexEscape.count content) +
        ofNat ((Pattern.words ["base64", "atob", "btoa"]).count content) +
        3 * ofNat ((Pattern.words ["eval(", "Function("]).count content) +
        ofNat ((Pattern.many .alphanumericAnyCase 50 false).count content) := by
  have hsum : (Matching.ofContent content Catalog.default.obfuscation).score =
      0 + 2 * ofNat (Shipped.hexEscape.count content) +
        1 * ofNat ((Pattern.words ["base64", "atob", "btoa"]).count content) +
        3 * ofNat ((Pattern.words ["eval(", "Function("]).count content) +
        1 * ofNat ((Pattern.many .alphanumericAnyCase 50 false).count content) :=
    Matching.score_eq_foldl (Catalog.positiveWeights_default .obfuscation) content
  have htwice (n : ℕ) : IsRounded (2 * ofNat n) := by
    rw [two_mul_eq]
    exact ((isCount_ofNat n).mul two_pos).rounded
  rw [hsum, (htwice _).zero_add_eq, (isRounded_ofNat _).one_mul_eq,
    (isRounded_ofNat _).one_mul_eq]

/-- The level of a score that is a count. -/
theorem obfuscationLevel_of_isCount {x : Binary64} {n : ℕ} (hx : IsCount x n) :
    obfuscationLevel x = if 10 < n then .high else if 5 < n then .medium else .low := by
  have hten : less 10 x = true ↔ 10 < n := hx.less_iff (by decide)
  have hfive : less 5 x = true ↔ 5 < n := hx.less_iff (by decide)
  simp only [obfuscationLevel, hten, hfive]

/-- **The obfuscation score counts escapes twice, names of encodings once, calls that evaluate text
three times and long runs once**, and the level says whether the total exceeds ten or five.  The
total is the score itself as long as doubles are exact; beyond 2⁵³ the sum is rounded. -/
theorem obfuscation_eq (content : Text) :
    ∃ h e d r m, Signs content h e d r ∧
      (Matching.ofContent content Catalog.default.obfuscation).complete = .ok m ∧
      m.score = 2 * ofNat h + ofNat e + 3 * ofNat d + ofNat r ∧
      (2 * h + e + 3 * d + r < 2 ^ 53 → m.score = .finite (2 * h + e + 3 * d + r : ℕ)) ∧
      obfuscationLevel m.score =
        if 10 < 2 * h + e + 3 * d + r then .high
        else if 5 < 2 * h + e + 3 * d + r then .medium
        else .low := by
  have hscore := score_obfuscation content
  have hcount := isCount_total (Shipped.hexEscape.count content)
    ((Pattern.words ["base64", "atob", "btoa"]).count content)
    ((Pattern.words ["eval(", "Function("]).count content)
    ((Pattern.many .alphanumericAnyCase 50 false).count content)
  rw [← hscore] at hcount
  exact ⟨_, _, _, _, _, signs_count content,
    Matching.complete_ofContent (Catalog.noNegativeWeight_default .obfuscation), hscore,
    fun hsmall => hcount.exact (Nat.le_pred_of_lt hsmall), obfuscationLevel_of_isCount hcount⟩

end Indication
end ThreatScan
