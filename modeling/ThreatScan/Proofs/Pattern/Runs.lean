/-
# Maximal runs

A run is a piece of a text that holds code points of one kind only, and it is maximal if the code
points next to it, where there are any, are of another kind.  `longRuns` are the maximal runs of at
least some length, by where they start and stop.

A greedy repetition without an upper bound takes each of them once and as a whole
(`encard_longRuns`): it does not stop before the kind ends, and a run that is too short holds
nothing that would be long enough.
-/
import ThreatScan.Proofs.Pattern.Surroundings
import Mathlib.Data.Set.Card

namespace ThreatScan
namespace Text

/-! ## 1. Runs -/

/-- Between `a` and `b` the text `w` is a maximal run of code points of a kind. -/
structure IsMaximalRun (kind : CodePoint → Prop) (a w b : Text) : Prop where
  ofKind : ∀ x ∈ w, kind x
  before : ∀ x ∈ a.getLast?, ¬ kind x
  behind : ∀ x ∈ b.head?, ¬ kind x

/-- Where the maximal runs of at least `n` code points of a kind start and stop. -/
def longRuns (kind : CodePoint → Prop) (n : ℕ) (t : Text) : Set (ℕ × ℕ) :=
  {q | ∃ a w b, t = a ++ (w ++ b) ∧ q = (a.length, a.length + w.length) ∧ n ≤ w.length ∧
    IsMaximalRun kind a w b}

/-- The same run behind `k` further code points. -/
def movedRun (k : ℕ) (q : ℕ × ℕ) : ℕ × ℕ := (k + q.1, k + q.2)

theorem movedRun_injective (k : ℕ) : (movedRun k).Injective := by
  rintro ⟨i, j⟩ ⟨i', j'⟩ h
  simpa [movedRun] using h

variable {kind : CodePoint → Prop} {n : ℕ} {t w w' s s' : Text} {y : CodePoint}

/-- A text has one longest piece of a kind at its beginning. -/
theorem eq_of_longest (h : w ++ s = w' ++ s') (hw : ∀ x ∈ w, kind x) (hw' : ∀ x ∈ w', kind x)
    (hs : ∀ x ∈ s.head?, ¬ kind x) (hs' : ∀ x ∈ s'.head?, ¬ kind x) : w = w' ∧ s = s' := by
  -- What one piece has more than the other one is not of the kind.
  have hequal {u v c : Text} (hu : ∀ x ∈ u ++ c, kind x) (hv : ∀ x ∈ (c ++ v).head?, ¬ kind x) :
      c = [] := by
    cases c with
    | nil => rfl
    | cons x c => exact absurd (hu x (by simp)) (hv x (by simp))
  rcases List.append_eq_append_iff.mp h with ⟨c, rfl, rfl⟩ | ⟨c, rfl, rfl⟩
  · obtain rfl := hequal hw' hs
    simp
  · obtain rfl := hequal hw hs'
    simp

/-- **The first run and the others**: if the text begins with `w` and then another kind follows, its
long runs are `w`, unless it is too short, and those behind it. -/
theorem longRuns_append (hn : 0 < n) (hw : ∀ x ∈ w, kind x) (hs : ∀ x ∈ s.head?, ¬ kind x) :
    longRuns kind n (w ++ s) =
      {q | q = (0, w.length) ∧ n ≤ w.length} ∪ movedRun w.length '' longRuns kind n s := by
  -- No long run stands at the beginning of what another kind begins.
  have hbegin {a v b : Text} (h : s = a ++ (v ++ b)) (hv : n ≤ v.length)
      (hkind : ∀ x ∈ v, kind x) : a ≠ [] := by
    rintro rfl
    cases v with
    | nil => exact absurd hv (Nat.not_le_of_lt hn)
    | cons x v => exact hs x (by simp [h]) (hkind x List.mem_cons_self)
  have hlast (c : Text) (hc : c ≠ []) : (w ++ c).getLast? = c.getLast? := by
    rw [List.getLast?_append, List.getLast?_eq_some_getLast hc, Option.some_or]
  ext q
  constructor
  · rintro ⟨a, v, b, hsplit, rfl, hlong, hkind, hbefore, hbehind⟩
    rcases List.append_eq_append_iff.mp hsplit with ⟨c, rfl, hrest⟩ | ⟨c, rfl, hrest⟩
    · have hc := hbegin hrest hlong hkind
      rw [hlast c hc] at hbefore
      refine .inr ⟨_, ⟨c, v, b, hrest, rfl, hlong, hkind, hbefore, hbehind⟩, ?_⟩
      simp [movedRun, Nat.add_assoc]
    · -- A run that starts within the first one starts at its beginning, and is the first one.
      obtain rfl : a = [] := by
        by_contra ha
        have hmem := List.getLast_mem ha
        exact hbefore _ (List.getLast?_eq_some_getLast ha) (hw _ (List.mem_append_left c hmem))
      obtain ⟨rfl, -⟩ := eq_of_longest hrest hkind hw hbehind hs
      exact .inl ⟨by simp, hlong⟩
  · rintro (⟨rfl, hlong⟩ | ⟨q, ⟨a, v, b, rfl, rfl, hlong, hkind, hbefore, hbehind⟩, rfl⟩)
    · exact ⟨[], w, s, rfl, by simp, hlong, hw, by simp, hs⟩
    · have ha := hbegin rfl hlong hkind
      rw [← hlast a ha] at hbefore
      refine ⟨w ++ a, v, b, by simp, ?_, hlong, hkind, hbefore, hbehind⟩
      simp [movedRun, Nat.add_assoc]

/-- A code point of another kind moves the runs behind it. -/
theorem longRuns_cons (hn : 0 < n) (hy : ¬ kind y) :
    longRuns kind n (y :: t) = movedRun 1 '' longRuns kind n t := by
  have hlast (a : Text) :
      (∀ x ∈ (y :: a).getLast?, ¬ kind x) ↔ ∀ x ∈ a.getLast?, ¬ kind x := by
    rw [List.getLast?_cons]
    cases a.getLast? <;> simp [hy]
  have hmoved (a v : Text) : ((y :: a).length, (y :: a).length + v.length) =
      movedRun 1 (a.length, a.length + v.length) := by
    rw [List.length_cons, Nat.add_comm a.length, Nat.add_assoc]
    rfl
  ext q
  constructor
  · rintro ⟨a, v, b, hsplit, rfl, hlong, hkind, hbefore, hbehind⟩
    cases a with
    | nil =>
      cases v with
      | nil => exact absurd hlong (Nat.not_le_of_lt hn)
      | cons x v =>
        obtain ⟨rfl, -⟩ := List.cons.inj hsplit
        exact absurd (hkind y List.mem_cons_self) hy
    | cons x a =>
      obtain ⟨rfl, rfl⟩ := List.cons.inj hsplit
      exact ⟨_, ⟨a, v, b, rfl, rfl, hlong, hkind, (hlast a).mp hbefore, hbehind⟩, (hmoved a v).symm⟩
  · rintro ⟨q, ⟨a, v, b, rfl, rfl, hlong, hkind, hbefore, hbehind⟩, rfl⟩
    exact ⟨y :: a, v, b, rfl, (hmoved a v).symm, hlong, hkind, (hlast a).mpr hbefore, hbehind⟩

end Text

namespace Pattern

open Text (longRuns longRuns_append longRuns_cons movedRun movedRun_injective)

variable {k : CharClass} {n : ℕ} {t w s : Text} {y : CodePoint}

/-! ## 2. What a greedy repetition takes -/

/-- A text is a longest piece of a class and what follows. -/
theorem exists_longest (k : CharClass) (t : Text) : ∃ w s, t = w ++ s ∧
    (∀ x ∈ w, k.has x = true) ∧ ∀ x ∈ s.head?, k.has x = false := by
  refine ⟨t.takeWhile k.has, t.dropWhile k.has, List.takeWhile_append_dropWhile.symm,
    fun x hx => List.mem_takeWhile_imp hx, ?_⟩
  intro x hx
  have hnot := List.head?_dropWhile_not k.has t
  rwa [Option.mem_def.mp hx] at hnot

/-- **What a greedy repetition takes ends where its class ends.** -/
theorem reach?_many (hw : ∀ x ∈ w, k.has x = true) (hs : ∀ x ∈ s.head?, k.has x = false)
    (hlong : n ≤ w.length) : (many k n false).reach? (w ++ s) = some w.length := by
  have haccepts : (many k n false).Accepts w := ⟨hlong, hw⟩
  obtain ⟨m, hm⟩ := Option.ne_none_iff_exists'.mp (reach?_ne_none rfl haccepts s)
  obtain ⟨d, hd, rfl⟩ := Option.map_eq_some_iff.mp hm
  obtain ⟨v, hreads, -, hv⟩ := accepts_of_mem_ends (List.mem_of_mem_head? hd)
  have hfarthest : (places k n 0 (w ++ s)).getLast? = some d := by
    rwa [← List.head?_reverse]
  have hend := has_eq_false_of_getLast?_places hfarthest
  obtain ⟨rfl, -⟩ := Text.eq_of_longest hreads.rest hw hv (by simpa using hs) (by simpa using hend)
  rw [hm, hreads.offset, Nat.zero_add]

/-- At the beginning of a run that is too short nothing is taken. -/
theorem reach?_many_of_short (hs : ∀ x ∈ s.head?, k.has x = false) (hshort : w.length < n) :
    (many k n false).reach? (w ++ s) = none := by
  by_contra hsome
  obtain ⟨m, hm⟩ := Option.ne_none_iff_exists'.mp hsome
  obtain ⟨v, r, hsplit, -, hlong, hv⟩ := exists_of_reach? hm
  -- What is taken would have to go on behind the run.
  rcases within_or_beyond hsplit with ⟨c, rfl, -⟩ | ⟨c, hc, rfl, rfl⟩
  · rw [List.length_append] at hshort
    omega
  · obtain ⟨y, c, rfl⟩ := List.exists_cons_of_ne_nil hc
    have hhas := hv y (by simp)
    rw [hs y rfl] at hhas
    cases hhas

section Counts

variable (hn : 0 < n)
include hn

theorem count_cons_of_not (hy : k.has y = false) :
    (many k n false).count (y :: t) = (many k n false).count t :=
  count_of_none (p := many k n false) rfl hn <|
    reach?_many_of_short (w := []) (by simpa using hy) hn

theorem count_append_of_short (hs : ∀ x ∈ s.head?, k.has x = false) (hshort : w.length < n) :
    (many k n false).count (w ++ s) = (many k n false).count s := by
  induction w with
  | nil => rfl
  | cons x w ih =>
    have hnone := reach?_many_of_short hs hshort
    rw [List.cons_append] at hnone ⊢
    rw [count_of_none (p := many k n false) rfl hn hnone]
    exact ih (Nat.lt_of_succ_lt hshort)

/-- **A greedy repetition takes a run once and as a whole**, unless it is too short. -/
theorem count_append_run (hw : ∀ x ∈ w, k.has x = true) (hs : ∀ x ∈ s.head?, k.has x = false) :
    (many k n false).count (w ++ s) =
      (if n ≤ w.length then 1 else 0) + (many k n false).count s := by
  split
  case isTrue hlong =>
    have hne : w ≠ [] := List.length_pos_iff.mp (hn.trans_le hlong)
    rw [count_of_some (p := many k n false) rfl hn (reach?_many hw hs hlong) hne, Nat.add_comm]
  case isFalse hshort => rw [count_append_of_short hn hs (not_le.mp hshort), Nat.zero_add]

/-- The first run and the others are counted apart. -/
theorem encard_longRuns_append (hw : ∀ x ∈ w, k.has x = true)
    (hs : ∀ x ∈ s.head?, k.has x = false) :
    (longRuns (fun x => k.has x = true) n (w ++ s)).encard =
      (if n ≤ w.length then 1 else 0) + (longRuns (fun x => k.has x = true) n s).encard := by
  rw [longRuns_append hn hw (by simpa using hs)]
  split
  case isTrue hlong =>
    have hpos := hn.trans_le hlong
    have hfirst : {q : ℕ × ℕ | q = (0, w.length) ∧ n ≤ w.length} = {(0, w.length)} := by
      simp [hlong]
    have hnot : (0, w.length) ∉
        movedRun w.length '' longRuns (fun x => k.has x = true) n s := by
      rintro ⟨q, -, heq⟩
      exact hpos.ne' (Nat.add_eq_zero_iff.mp (congrArg Prod.fst heq)).1
    rw [hfirst, Set.singleton_union, Set.encard_insert_of_notMem hnot,
      (movedRun_injective _).encard_image, add_comm]
  case isFalse hshort =>
    have hnone : {q : ℕ × ℕ | q = (0, w.length) ∧ n ≤ w.length} = ∅ := by simp [hshort]
    rw [hnone, Set.empty_union, (movedRun_injective _).encard_image, zero_add]

/-- **A greedy repetition counts the maximal runs.**  The induction takes one run and the code point
behind it at a time. -/
theorem encard_longRuns (t : Text) :
    (longRuns (fun x => k.has x = true) n t).encard = (many k n false).count t := by
  induction hlength : t.length using Nat.strong_induction_on generalizing t with
  | _ m ih =>
    obtain ⟨w, s, rfl, hw, hs⟩ := exists_longest k t
    have hrest : (longRuns (fun x => k.has x = true) n s).encard = (many k n false).count s := by
      cases s with
      | nil =>
        rw [count_nil (p := many k n false) hn rfl, Nat.cast_zero, Set.encard_eq_zero,
          Set.eq_empty_iff_forall_notMem]
        rintro q ⟨a, v, b, hsplit, -, hlong, -⟩
        obtain ⟨-, hvb⟩ := List.append_eq_nil_iff.mp hsplit.symm
        rw [(List.append_eq_nil_iff.mp hvb).1] at hlong
        exact Nat.not_le_of_lt hn hlong
      | cons y b =>
        have hy := hs y rfl
        rw [longRuns_cons hn (by simp [hy]), (movedRun_injective 1).encard_image,
          count_cons_of_not hn hy]
        exact ih b.length (by simp [← hlength]; omega) b rfl
    rw [encard_longRuns_append hn hw hs, count_append_run hn hw hs, hrest]
    push_cast
    rfl

end Counts

end Pattern
end ThreatScan
