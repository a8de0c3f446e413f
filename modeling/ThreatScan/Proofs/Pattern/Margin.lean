/-
# Occurrences and the blanks around them

A pattern that neither starts nor ends with a blank does not heed the blanks around a text, nor
those between its parts: an occurrence cannot start in front, and it does not go on behind
(`IsFramed.count_margins`).  A pattern without line feeds occurs in a text as often as in its lines
(`count_eq_sum_lines`), so a framed one occurs as often as in the stripped lines
(`IsFramed.count_eq_sum`).

Whether a pattern is of this kind can be read off its classes, since there are only so many blanks.
-/
import ThreatScan.Proofs.Pattern.Extension
import ThreatScan.Proofs.Text.Blank
import Mathlib.Algebra.BigOperators.Group.List.Lemmas
import Mathlib.Algebra.GroupWithZero.Nat

namespace ThreatScan

open Text (IsBlank isBlank newline strippedLines trim)

namespace CharClass

/-! ## 1. Classes -/

/-- The class has no blank. -/
def isSolid (k : CharClass) : Bool := Text.blanks.all fun x => !k.has x

theorem has_eq_false_of_isSolid {k : CharClass} (hk : k.isSolid = true) {x : CodePoint}
    (hx : isBlank x = true) : k.has x = false := by
  have h := List.all_eq_true.mp hk x (Text.mem_blanks.mpr hx)
  simpa using h

theorem isBlank_eq_false_of_isSolid {k : CharClass} (hk : k.isSolid = true) {x : CodePoint}
    (hx : k.has x = true) : isBlank x = false := by
  by_contra hblank
  rw [has_eq_false_of_isSolid hk (by simpa using hblank)] at hx
  cases hx

end CharClass

namespace Pattern

open Cursor

variable {p : Pattern} {u w : Text}

/-! ## 2. How a pattern starts and ends -/

/-- What the pattern takes starts with no blank. -/
def startsSolid (p : Pattern) : Bool :=
  match p.firsts? with
  | some ks => ks.all CharClass.isSolid
  | none => false

/-- What the pattern takes ends with no blank. -/
def endsSolid : Pattern → Bool
  | .each ks => ks.getLast?.any CharClass.isSolid
  | .atStart => false
  | .seq _ q => q.endsSolid
  | .alt p q => p.endsSolid && q.endsSolid
  | .many k least _ => decide (0 < least) && k.isSolid
  | .commit p => p.endsSolid

/-- What the pattern commits itself to ends with no blank. -/
def commitsSolid : Pattern → Bool
  | .each _ => true
  | .atStart => true
  | .seq p q => p.commitsSolid && q.commitsSolid
  | .alt p q => p.commitsSolid && q.commitsSolid
  | .many _ _ _ => true
  | .commit p => p.commitsSolid && p.endsSolid

theorem ends_eq_nil_of_blank (hp : p.startsSolid = true) {x : CodePoint} (hx : isBlank x = true)
    (offset : ℕ) (t : Text) : p.ends ⟨offset, x :: t⟩ = [] := by
  rw [startsSolid] at hp
  split at hp
  case h_1 ks hks =>
    have hno : ∀ k ∈ ks, k.has x = false := by
      intro k hk
      exact CharClass.has_eq_false_of_isSolid (List.all_eq_true.mp hp k hk) hx
    have hrun : p.run ⟨offset, x :: t⟩ some = none := run_eq_none_of_firsts p ks some hks hno
    rwa [run_some, List.head?_eq_none_iff] at hrun
  case h_2 => cases hp

theorem exists_of_endsSolid (hp : p.endsSolid = true) (h : p.Accepts w) :
    ∃ v x, w = v ++ [x] ∧ isBlank x = false := by
  induction p generalizing w with
  | each ks =>
    have hreverse : List.Forall₂ (fun k x => CharClass.has k x = true) ks.reverse w.reverse :=
      List.forall₂_reverse_iff.mpr h
    rw [endsSolid, ← List.head?_reverse] at hp
    cases hks : ks.reverse with
    | nil =>
      rw [hks] at hp
      cases hp
    | cons k ks' =>
      rw [hks] at hp hreverse
      obtain ⟨x, v, hx, -, hw⟩ := List.forall₂_cons_left_iff.mp hreverse
      refine ⟨v.reverse, x, ?_, CharClass.isBlank_eq_false_of_isSolid hp hx⟩
      rw [← List.reverse_reverse w, hw, List.reverse_cons]
  | atStart => cases hp
  | seq p q _ hq' =>
    obtain ⟨u, v, rfl, -, hv⟩ := h
    obtain ⟨v, x, rfl, hx⟩ := hq' hp hv
    exact ⟨u ++ v, x, (List.append_assoc ..).symm, hx⟩
  | alt p q hp' hq' =>
    rw [endsSolid, Bool.and_eq_true] at hp
    rcases h with h | h
    · exact hp' hp.1 h
    · exact hq' hp.2 h
  | many k least isLazy =>
    rw [endsSolid, Bool.and_eq_true, decide_eq_true_eq] at hp
    rcases List.eq_nil_or_concat' w with rfl | ⟨v, x, rfl⟩
    · exact absurd h.1 (Nat.not_le_of_lt hp.1)
    · exact ⟨v, x, rfl, CharClass.isBlank_eq_false_of_isSolid hp.2 (h.2 x (by simp))⟩
  | commit p hp' => exact hp' hp h

/-- An end lies outside of `u` unless a part of what was taken begins `u`. -/
theorem outside_of_reads {c d : Cursor} (hw : (c.extend u).Reads w d)
    (h : ∀ a, a ≠ [] → a <:+ w → ¬ a <+: u) : outside u d = true := by
  have hrest : c.rest ++ u = w ++ d.rest := hw.rest
  refine decide_eq_true ?_
  rcases List.append_eq_append_iff.mp hrest with ⟨a, ha, hu⟩ | ⟨a, -, hd⟩
  · rcases eq_or_ne a [] with rfl | hne
    · rw [hu, List.nil_append]
    · exact absurd ⟨d.rest, hu.symm⟩ (h a hne ⟨c.rest, ha.symm⟩)
  · rw [hd, List.length_append]
    exact Nat.le_add_left _ _

/-- **A pattern that ends with no blank does not stop in blanks.** -/
theorem stops_of_endsSolid (hp : p.endsSolid = true) (hu : IsBlank u) : p.Stops u := by
  intro c d hd
  obtain ⟨w, hw, haccepts⟩ := accepts_of_mem_ends hd
  obtain ⟨v, x, rfl, hx⟩ := exists_of_endsSolid hp haccepts
  refine outside_of_reads hw ?_
  intro a hne hsuffix hstart
  obtain ⟨a, y, rfl⟩ := (List.eq_nil_or_concat' a).resolve_left hne
  obtain ⟨b, hb⟩ := hsuffix
  rw [← List.append_assoc] at hb
  obtain ⟨-, hyx⟩ := List.append_inj' hb rfl
  obtain rfl : y = x := by simpa using hyx
  rw [hu y (hstart.subset (by simp))] at hx
  cases hx

/-- What holds of the parts of a pattern, and keeps the committed ones from stopping in `u`, keeps
all commitments out of it. -/
theorem commitsStop_of_parts {P : Pattern → Prop} (hseq : ∀ p q, P (seq p q) → P p ∧ P q)
    (halt : ∀ p q, P (alt p q) → P p ∧ P q) (hcommit : ∀ p, P (commit p) → P p ∧ p.Stops u)
    (hp : P p) : p.CommitsStop u := by
  induction p with
  | each => trivial
  | atStart => trivial
  | seq p q hp' hq' =>
    obtain ⟨hleft, hright⟩ := hseq p q hp
    exact ⟨hp' hleft, hq' hright⟩
  | alt p q hp' hq' =>
    obtain ⟨hleft, hright⟩ := halt p q hp
    exact ⟨hp' hleft, hq' hright⟩
  | many => trivial
  | commit p hp' =>
    obtain ⟨hpart, hstops⟩ := hcommit p hp
    exact ⟨hp' hpart, hstops⟩

theorem commitsStop_of_commitsSolid (hp : p.commitsSolid = true) (hu : IsBlank u) :
    p.CommitsStop u := by
  refine commitsStop_of_parts (P := fun p => p.commitsSolid = true) ?_ ?_ ?_ hp
  · exact fun p q h => Bool.and_eq_true_iff.mp h
  · exact fun p q h => Bool.and_eq_true_iff.mp h
  · intro p h
    obtain ⟨hpart, hends⟩ := Bool.and_eq_true_iff.mp h
    exact ⟨hpart, stops_of_endsSolid hends hu⟩

/-- A pattern without line feeds does not stop behind one. -/
theorem stops_of_excludes (hp : p.excludes newline = true) : p.Stops (newline :: u) := by
  intro c d hd
  obtain ⟨w, hw, haccepts⟩ := accepts_of_mem_ends hd
  refine outside_of_reads hw ?_
  intro a hne hsuffix hstart
  cases a with
  | nil => exact hne rfl
  | cons x a =>
    obtain ⟨rfl, -⟩ := List.cons_prefix_cons.mp hstart
    exact notMem_of_excludes hp haccepts (hsuffix.subset List.mem_cons_self)

theorem commitsStop_of_excludes (hp : p.excludes newline = true) :
    p.CommitsStop (newline :: u) := by
  refine commitsStop_of_parts (P := fun p => p.excludes newline = true) ?_ ?_ ?_ hp
  · exact fun p q h => Bool.and_eq_true_iff.mp h
  · exact fun p q h => Bool.and_eq_true_iff.mp h
  · exact fun p h => ⟨h, stops_of_excludes h⟩

/-! ## 3. Occurrences -/

section Lines

variable (hlength : 0 < p.leastLength) (hfloating : p.isFloating = true)
  (hnewline : p.excludes newline = true)
include hlength hfloating hnewline

/-- **Occurrences add up at a line feed** if the pattern has none. -/
theorem count_append_newline (a b : Text) :
    p.count (a ++ newline :: b) = p.count a + p.count b := by
  have hdead : ∀ x ∈ [newline], ∀ t, p.ends ⟨0, x :: t⟩ = [] := by
    intro x hx t
    obtain rfl := List.mem_singleton.mp hx
    refine List.eq_nil_iff_forall_not_mem.mpr ?_
    intro d hd
    obtain ⟨w, hw, haccepts⟩ := accepts_of_mem_ends hd
    have hrest : newline :: t = w ++ d.rest := hw.rest
    have hle := leastLength_le haccepts
    cases w with
    | nil => exact absurd hlength (Nat.not_lt_of_le hle)
    | cons x w =>
      obtain rfl := (List.cons.inj hrest).1
      exact notMem_of_excludes hnewline haccepts List.mem_cons_self
  rw [count_append hlength hfloating (commitsStop_of_excludes hnewline)
    (stops_of_excludes hnewline)]
  exact congrArg (p.count a + ·) (count_append_of_dead hlength hfloating hdead b)

/-- **The occurrences in a text are those in its lines.** -/
theorem count_eq_sum_lines (t : Text) : p.count t = ((Text.lines t).map p.count).sum := by
  induction t using Text.lines_induction with
  | hline l hl => rw [Text.lines_of_notMem hl, List.map_singleton, List.sum_singleton]
  | hcons l t hl ih =>
    rw [count_append_newline hlength hfloating hnewline, Text.lines_append,
      Text.lines_of_notMem hl, List.singleton_append, List.map_cons, List.sum_cons, ih]

end Lines

/-- The pattern takes something wherever the text stands, and ends with no blank. -/
structure IsClosed (p : Pattern) : Prop where
  floating : p.isFloating = true
  length : 0 < p.leastLength
  stops : p.endsSolid = true
  commits : p.commitsSolid = true

/-- The pattern starts with no blank, too. -/
structure IsFramed (p : Pattern) : Prop extends p.IsClosed where
  starts : p.startsSolid = true

instance (p : Pattern) : Decidable p.IsClosed :=
  decidable_of_iff (p.isFloating = true ∧ 0 < p.leastLength ∧ p.endsSolid = true ∧
      p.commitsSolid = true)
    ⟨fun ⟨h₁, h₂, h₃, h₄⟩ => ⟨h₁, h₂, h₃, h₄⟩,
      fun h => ⟨h.floating, h.length, h.stops, h.commits⟩⟩

instance (p : Pattern) : Decidable p.IsFramed :=
  decidable_of_iff (p.IsClosed ∧ p.startsSolid = true)
    ⟨fun ⟨h₁, h₂⟩ => ⟨h₁, h₂⟩, fun h => ⟨h.toIsClosed, h.starts⟩⟩

/-- Blanks behind a text add no end. -/
theorem IsClosed.ends_extend (hp : p.IsClosed) (hu : IsBlank u) (c : Cursor) :
    p.ends (c.extend u) = (p.ends c).map (extend u) :=
  Pattern.ends_extend (commitsStop_of_commitsSolid hp.commits hu) (stops_of_endsSolid hp.stops hu) c

/-- Blanks in front of a text have no part in the count. -/
theorem IsFramed.count_blank_append (hp : p.IsFramed) {b : Text} (hb : IsBlank b) (t : Text) :
    p.count (b ++ t) = p.count t :=
  count_append_of_dead hp.length hp.floating
    (fun x hx t => ends_eq_nil_of_blank hp.starts (hb x hx) 0 t) t

theorem IsFramed.count_of_blank (hp : p.IsFramed) {b : Text} (hb : IsBlank b) : p.count b = 0 := by
  have h := hp.count_blank_append hb []
  rwa [List.append_nil, count_nil hp.length hp.floating] at h

/-- **A framed pattern does not heed the blanks around a text.** -/
theorem IsFramed.count_margins (hp : p.IsFramed) {b b' : Text} (hb : IsBlank b)
    (hb' : IsBlank b') (t : Text) : p.count (b ++ (t ++ b')) = p.count t := by
  rw [hp.count_blank_append hb, count_append hp.length hp.floating
    (commitsStop_of_commitsSolid hp.commits hb') (stops_of_endsSolid hp.stops hb'),
    hp.count_of_blank hb', Nat.add_zero]

theorem IsFramed.count_trim (hp : p.IsFramed) (t : Text) : p.count (trim t) = p.count t := by
  obtain ⟨b, b', ht, hb, hb'⟩ := Text.exists_trim t
  conv_rhs => rw [ht]
  exact (hp.count_margins hb hb' (trim t)).symm

/-- The occurrences in a line are those in what is left of it. -/
theorem IsFramed.count_line (hp : p.IsFramed) {l : Text} (hl : newline ∉ l) :
    p.count l = ((strippedLines l).map p.count).sum := by
  by_cases hblank : IsBlank l
  · rw [Text.strippedLines_of_blank hl hblank]
    exact hp.count_of_blank hblank
  · rw [Text.strippedLines_of_not_blank hl hblank, List.map_singleton, List.sum_singleton]
    exact (hp.count_trim l).symm

/-- **A framed pattern without line feeds occurs as often as in the stripped lines.** -/
theorem IsFramed.count_eq_sum (hp : p.IsFramed) (hnewline : p.excludes newline = true) (t : Text) :
    p.count t = ((strippedLines t).map p.count).sum := by
  induction t using Text.lines_induction with
  | hline l hl => exact hp.count_line hl
  | hcons l t hl ih =>
    rw [Text.strippedLines_append, List.map_append, List.sum_append, ← hp.count_line hl, ← ih]
    exact count_append_newline hp.length hp.floating hnewline l t

end Pattern
end ThreatScan
