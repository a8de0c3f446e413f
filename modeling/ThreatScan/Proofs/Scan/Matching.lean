/-
# Matching a table without negative weights

A finding weighs the weight of its signature times the number of occurrences, so a table whose
weights are numbers and not negative has no finding that is refused, and its matching is complete
(`complete_ofContent`, `complete_ofLines`).  What a matching holds keeps the bounds of a finding
in any case, because a matching ends before the first finding that does not.
-/
import ThreatScan.Scan.Matching
import ThreatScan.Proofs.Number.Order
import Mathlib.Data.List.TakeWhile

namespace ThreatScan

open Binary64

/-- Every weight of the table is a number, and none is negative. -/
def NoNegativeWeight (table : List Signature) : Prop := ∀ s ∈ table, Nonneg s.weight

namespace Catalog

/-- Every weight of the catalog is a number, and none is negative. -/
def NoNegativeWeight (c : Catalog) : Prop := ∀ t, ThreatScan.NoNegativeWeight (c.table t)

theorem noNegativeWeight_default : Catalog.default.NoNegativeWeight := by
  intro t
  cases t <;> unfold ThreatScan.NoNegativeWeight <;> decide +kernel

end Catalog

/-- The numbers of a finding keep the bounds of the record. -/
structure Finding.InBounds (f : Finding) : Prop where
  weight : Decode.Bounds.natural.brokenByNumber f.weight = none
  matchCount : Decode.Bounds.positive.brokenBy f.matchCount = none
  lineNumber : ∀ n ∈ f.lineNumber, Decode.Bounds.positive.brokenBy n = none

namespace Matching

variable {content : Text} {table : List Signature} {s : Signature} {f : Finding}

/-! ## 1. The findings of one signature -/

/-- A finding in a whole content stands for at least one occurrence. -/
theorem eq_finding_of_inContent? (h : inContent? content s = some f) :
    ∃ count snippet, 0 < count ∧ f = finding s count snippet none := by
  unfold inContent? at h
  split at h
  · cases h
  · rename_i o os _
    exact ⟨os.length + 1, _, Nat.succ_pos _, (Option.some.inj h).symm⟩

/-- A finding in a line stands for at least one occurrence and has the number of the line. -/
theorem eq_finding_of_inLine? {search : Search} {line : Text × ℕ}
    (h : inLine? s search line = some f) :
    ∃ count snippet, 0 < count ∧ f = finding s count snippet (some line.2) := by
  unfold inLine? at h
  simp only at h
  split at h
  · cases h
  · exact ⟨_, _, Nat.pos_of_ne_zero ‹_›, (Option.some.inj h).symm⟩

theorem eq_finding_of_mem_inLines {lines : List (Text × ℕ)} (h : f ∈ inLines lines s) :
    ∃ line ∈ lines, ∃ count snippet, 0 < count ∧ f = finding s count snippet (some line.2) := by
  obtain ⟨line, hline, hf⟩ := List.mem_filterMap.mp h
  exact ⟨line, hline, eq_finding_of_inLine? hf⟩

/-- The lines of a text are numbered from one. -/
theorem pos_of_mem_numberedLines {line : Text × ℕ} (h : line ∈ numberedLines content) :
    0 < line.2 :=
  List.le_snd_of_mem_zipIdx h

/-! ## 2. Complete matchings -/

theorem isRefused_eq_false : isRefused f = false ↔ Nonneg f.weight := by
  rw [isRefused, Option.isSome_eq_false_iff, Option.isNone_iff_eq_none, natural_brokenByNumber]

theorem ofFindings_eq {fs : List Finding} (h : ∀ f ∈ fs, Nonneg f.weight) :
    ofFindings fs = ⟨fs, none⟩ := by
  have hf : ∀ f ∈ fs, isRefused f = false := fun f hf => isRefused_eq_false.mpr (h f hf)
  simp only [ofFindings, Matching.mk.injEq]
  constructor
  · exact List.takeWhile_eq_self_iff.mpr fun f hm => by simp [hf f hm]
  · exact List.find?_eq_none.mpr fun f hm => by simp [hf f hm]

/-- **A table whose weights are numbers and not negative keeps all its findings.** -/
theorem ofContent_eq (h : NoNegativeWeight table) :
    ofContent content table = ⟨table.filterMap (inContent? content), none⟩ := by
  refine ofFindings_eq ?_
  intro f hf
  obtain ⟨s, hs, hf⟩ := List.mem_filterMap.mp hf
  obtain ⟨count, snippet, hcount, rfl⟩ := eq_finding_of_inContent? hf
  exact (h s hs).times hcount

theorem refused_ofContent (h : NoNegativeWeight table) :
    (ofContent content table).refused = none := by
  rw [ofContent_eq h]

/-- Line by line it keeps all of them, too. -/
theorem ofLines_eq (h : NoNegativeWeight table) :
    ofLines content table = ⟨table.flatMap (inLines (numberedLines content)), none⟩ := by
  refine ofFindings_eq ?_
  intro f hf
  obtain ⟨s, hs, hf⟩ := List.mem_flatMap.mp hf
  obtain ⟨line, -, count, snippet, hcount, rfl⟩ := eq_finding_of_mem_inLines hf
  exact (h s hs).times hcount

theorem refused_ofLines (h : NoNegativeWeight table) :
    (ofLines content table).refused = none := by
  rw [ofLines_eq h]

theorem complete_eq_ok_iff {m n : Matching} : m.complete = .ok n ↔ m.refused = none ∧ n = m := by
  cases h : m.refused <;> simp [complete, h, eq_comm]

theorem complete_ofContent (h : NoNegativeWeight table) :
    (ofContent content table).complete = .ok (ofContent content table) :=
  complete_eq_ok_iff.mpr ⟨refused_ofContent h, rfl⟩

theorem complete_ofLines (h : NoNegativeWeight table) :
    (ofLines content table).complete = .ok (ofLines content table) :=
  complete_eq_ok_iff.mpr ⟨refused_ofLines h, rfl⟩

/-! ## 3. The bounds of what is found -/

theorem mem_of_mem_ofFindings {fs : List Finding} (h : f ∈ (ofFindings fs).findings) :
    f ∈ fs ∧ Nonneg f.weight := by
  have hf := List.mem_takeWhile_imp h
  exact ⟨List.takeWhile_subset _ h, isRefused_eq_false.mp (by simpa using hf)⟩

theorem inBounds_finding {count : ℕ} {snippet : Text} {line : Option ℕ} (hcount : 0 < count)
    (hline : ∀ n ∈ line, 0 < n) (hweight : Nonneg (finding s count snippet line).weight) :
    (finding s count snippet line).InBounds where
  weight := natural_brokenByNumber.mpr hweight
  matchCount := Decode.Bounds.positive_brokenBy.mpr (Int.natCast_pos.mpr hcount)
  lineNumber := by
    cases line with
    | none => simp [finding]
    | some k =>
      rintro n ⟨⟩
      exact Decode.Bounds.positive_brokenBy.mpr (Int.natCast_pos.mpr (hline k rfl))

theorem inBounds_ofContent : ∀ f ∈ (ofContent content table).findings, f.InBounds := by
  intro f hf
  obtain ⟨hmem, hweight⟩ := mem_of_mem_ofFindings hf
  obtain ⟨s, -, hs⟩ := List.mem_filterMap.mp hmem
  obtain ⟨count, snippet, hcount, rfl⟩ := eq_finding_of_inContent? hs
  exact inBounds_finding hcount (by simp) hweight

theorem inBounds_ofLines : ∀ f ∈ (ofLines content table).findings, f.InBounds := by
  intro f hf
  obtain ⟨hmem, hweight⟩ := mem_of_mem_ofFindings hf
  obtain ⟨s, -, hs⟩ := List.mem_flatMap.mp hmem
  obtain ⟨line, hline, count, snippet, hcount, rfl⟩ := eq_finding_of_mem_inLines hs
  refine inBounds_finding hcount ?_ hweight
  rintro n ⟨⟩
  exact pos_of_mem_numberedLines hline

theorem inBounds_ofExtension? {name : Text} {extensions : List Text}
    (h : ofExtension? name extensions = some f) : f.InBounds := by
  obtain ⟨e, -, rfl⟩ := Option.map_eq_some_iff.mp h
  exact ⟨natural_brokenByNumber.mpr (nonneg_ofNat 1),
    Decode.Bounds.positive_brokenBy.mpr le_rfl, by simp⟩

/-! ## 4. Sums -/

theorem nonneg_foldl_weight {fs : List Finding} (h : ∀ f ∈ fs, Nonneg f.weight)
    {x : Binary64} (hx : Nonneg x) : Nonneg (fs.foldl (fun s f => s + f.weight) x) := by
  induction fs generalizing x with
  | nil => exact hx
  | cons f fs ih =>
    exact ih (fun g hg => h g (by simp [hg])) (hx.add (h f (by simp)))

/-- A matching has a score, whatever the weights of the table are. -/
theorem nonneg_score_ofContent : Nonneg (ofContent content table).score :=
  nonneg_foldl_weight (fun _ hf => (mem_of_mem_ofFindings hf).2) (nonneg_ofNat 0)

theorem foldl_matchCount_nonneg {fs : List Finding} (h : ∀ f ∈ fs, 0 ≤ f.matchCount)
    {n : ℤ} (hn : 0 ≤ n) : 0 ≤ fs.foldl (fun n f => n + f.matchCount) n := by
  induction fs generalizing n with
  | nil => exact hn
  | cons f fs ih =>
    exact ih (fun g hg => h g (by simp [hg])) (add_nonneg hn (h f (by simp)))

theorem matchCount_ofContent_nonneg : 0 ≤ (ofContent content table).matchCount := by
  refine foldl_matchCount_nonneg ?_ le_rfl
  intro f hf
  have := Decode.Bounds.positive_brokenBy.mp (inBounds_ofContent f hf).matchCount
  omega

end Matching
end ThreatScan
