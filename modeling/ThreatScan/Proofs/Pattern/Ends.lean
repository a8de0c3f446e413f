/-
# The ends of a pattern

`run` asks for an answer and tries the ends of a pattern in order of preference.  This module lists
them: `ends p c` are the places where `p` can stop from `c`, the preferred one first, with one
clause for each kind of pattern, and a run looks for the first of them that has an answer
(`run_eq_findSome?`).  With the list in hand a pattern is compared with another one by what its
parts can do: `Refines` is inclusion of the ends, and it goes through sequences and choices part by
part.
-/
import ThreatScan.Pattern.Basic
import Mathlib.Data.List.Basic
import Mathlib.Data.List.Forall2
import Mathlib.Data.Nat.Basic
import Mathlib.Tactic.Tauto

namespace ThreatScan

/-! ## 1. Places -/

namespace Cursor

/-- The place `n` code points further on. -/
def advance (c : Cursor) (n : ℕ) : Cursor := ⟨c.offset + n, c.rest.drop n⟩

@[simp] theorem advance_zero (c : Cursor) : c.advance 0 = c := rfl

@[simp] theorem advance_advance (c : Cursor) (m n : ℕ) :
    (c.advance m).advance n = c.advance (m + n) := by
  simp [advance, Nat.add_assoc]

theorem advance_succ (offset : ℕ) (x : CodePoint) (t : Text) (n : ℕ) :
    (⟨offset, x :: t⟩ : Cursor).advance (n + 1) = (⟨offset + 1, t⟩ : Cursor).advance n := by
  simp [advance, Nat.add_comm 1, Nat.add_assoc]

/-- The next `n` code points are there and belong to the class. -/
def Spans (c : Cursor) (k : CharClass) (n : ℕ) : Prop :=
  n ≤ c.rest.length ∧ ∀ x ∈ c.rest.take n, k.has x = true

variable {offset : ℕ} {x : CodePoint} {t : Text} {k : CharClass} {n : ℕ}

@[simp] theorem spans_zero (c : Cursor) (k : CharClass) : c.Spans k 0 := by simp [Spans]

@[simp] theorem spans_nil : (⟨offset, []⟩ : Cursor).Spans k n ↔ n = 0 := by
  simp [Spans]

theorem spans_succ :
    (⟨offset, x :: t⟩ : Cursor).Spans k (n + 1) ↔
      k.has x = true ∧ (⟨offset + 1, t⟩ : Cursor).Spans k n := by
  simp [Spans]
  tauto

end Cursor

namespace Pattern

open Cursor

variable {α : Type}

/-! ## 2. The list of the ends -/

/-- The places after at least `least` code points of the class, the nearest one first. -/
def places (k : CharClass) (least : ℕ) : ℕ → Text → List Cursor
  | offset, [] => if least = 0 then [⟨offset, []⟩] else []
  | offset, x :: t =>
    (if least = 0 then [⟨offset, x :: t⟩] else []) ++
      if k.has x then places k (least - 1) (offset + 1) t else []

/-- The places where the pattern can stop, the preferred one first. -/
def ends : Pattern → Cursor → List Cursor
  | .each ks, c => (after? ks c.offset c.rest).toList
  | .atStart, c => if c.offset = 0 then [c] else []
  | .seq p q, c => (p.ends c).flatMap q.ends
  | .alt p q, c => p.ends c ++ q.ends c
  | .many k least lazy, c =>
    if lazy then places k least c.offset c.rest else (places k least c.offset c.rest).reverse
  | .commit p, c => (p.ends c).take 1

theorem nearest_eq_findSome? (k : CharClass) (answer : Cursor → Option α) (least offset : ℕ)
    (t : Text) :
    nearest k answer least offset t = (places k least offset t).findSome? answer := by
  induction t generalizing least offset with
  | nil =>
    rw [nearest, places]
    split <;> simp
  | cons x t ih =>
    rw [nearest, places, List.findSome?_append]
    have hhere : (if least = 0 then [(⟨offset, x :: t⟩ : Cursor)] else []).findSome? answer =
        if least = 0 then answer ⟨offset, x :: t⟩ else none := by
      split <;> simp
    have hrest : (if k.has x then places k (least - 1) (offset + 1) t else []).findSome? answer =
        if k.has x then nearest k answer (least - 1) (offset + 1) t else none := by
      split
      · exact (ih _ _).symm
      · rfl
    rw [hhere, hrest]
    cases (if least = 0 then answer ⟨offset, x :: t⟩ else none) <;> rfl

theorem farthest_eq_findSome? (k : CharClass) (answer : Cursor → Option α) (least offset : ℕ)
    (t : Text) (best : Option α) :
    farthest k answer least offset t best =
      ((places k least offset t).reverse.findSome? answer).or best := by
  induction t generalizing least offset best with
  | nil =>
    rw [farthest, places]
    split <;> simp
  | cons x t ih =>
    simp only [farthest, places, List.reverse_append, List.findSome?_append]
    have hhere : (if least = 0 then (answer ⟨offset, x :: t⟩).or best else best) =
        ((if least = 0 then [(⟨offset, x :: t⟩ : Cursor)] else []).reverse.findSome? answer).or
          best := by
      split <;> simp
    rw [hhere]
    split
    case isTrue => rw [ih, Option.or_assoc]
    case isFalse => rfl

/-- A search through the entries of several lists goes through the lists one after the other. -/
theorem findSome?_flatMap {β γ : Type} (xs : List β) (f : β → List γ) (answer : γ → Option α) :
    (xs.flatMap f).findSome? answer = xs.findSome? fun x => (f x).findSome? answer := by
  induction xs with
  | nil => rfl
  | cons x xs ih =>
    rw [List.flatMap_cons, List.findSome?_append, ih, List.findSome?_cons]
    cases (f x).findSome? answer <;> rfl

/-- **A run looks for the first end that has an answer.** -/
theorem run_eq_findSome? (p : Pattern) (c : Cursor) (answer : Cursor → Option α) :
    p.run c answer = (p.ends c).findSome? answer := by
  induction p generalizing α c with
  | each ks =>
    rw [run, ends]
    cases after? ks c.offset c.rest <;> simp
  | atStart =>
    rw [run, ends]
    split <;> simp
  | seq p q hp hq =>
    rw [run, ends, hp, findSome?_flatMap]
    congr 1
    funext d
    exact hq d answer
  | alt p q hp hq =>
    rw [run, ends, hp, hq, List.findSome?_append]
    cases (p.ends c).findSome? answer <;> rfl
  | many k least lazy =>
    rw [run, ends]
    split
    case isTrue => exact nearest_eq_findSome? ..
    case isFalse => rw [farthest_eq_findSome?, Option.or_none]
  | commit p hp =>
    rw [run, ends, hp]
    cases p.ends c <;> simp

theorem run_some (p : Pattern) (c : Cursor) : p.run c some = (p.ends c).head? := by
  rw [run_eq_findSome?]
  cases p.ends c <;> rfl

/-! ## 3. The ends of what patterns are built from -/

theorem mem_places {k : CharClass} {least offset : ℕ} {t : Text} {d : Cursor} :
    d ∈ places k least offset t ↔
      ∃ n, least ≤ n ∧ (⟨offset, t⟩ : Cursor).Spans k n ∧ d = (⟨offset, t⟩ : Cursor).advance n := by
  induction t generalizing least offset d with
  | nil =>
    rw [places]
    constructor
    · intro hd
      split at hd
      case isTrue hl => exact ⟨0, Nat.le_of_eq hl, spans_zero _ _, List.mem_singleton.mp hd⟩
      case isFalse => cases hd
    · rintro ⟨n, hn, hspans, rfl⟩
      obtain rfl := spans_nil.mp hspans
      simp [Nat.le_zero.mp hn]
  | cons x t ih =>
    rw [places, List.mem_append]
    constructor
    · rintro (hd | hd)
      · split at hd
        case isTrue hl => exact ⟨0, Nat.le_of_eq hl, spans_zero _ _, List.mem_singleton.mp hd⟩
        case isFalse => cases hd
      · split at hd
        case isTrue hx =>
          obtain ⟨n, hn, hspans, rfl⟩ := ih.mp hd
          exact ⟨n + 1, by omega, spans_succ.mpr ⟨hx, hspans⟩, (advance_succ ..).symm⟩
        case isFalse => cases hd
    · rintro ⟨n, hn, hspans, rfl⟩
      cases n with
      | zero => simp [Nat.le_zero.mp hn]
      | succ n =>
        obtain ⟨hx, hspans⟩ := spans_succ.mp hspans
        rw [if_pos hx, advance_succ]
        exact .inr (ih.mpr ⟨n, by omega, hspans, rfl⟩)

theorem mem_ends_many {k : CharClass} {least : ℕ} {isLazy : Bool} {c d : Cursor} :
    d ∈ (many k least isLazy).ends c ↔ ∃ n, least ≤ n ∧ c.Spans k n ∧ d = c.advance n := by
  rw [ends]
  split
  · exact mem_places
  · rw [List.mem_reverse]
    exact mem_places

/-- One code point of each class takes up as many places as there are classes. -/
theorem eq_advance_of_after? {ks : List CharClass} {offset : ℕ} {t : Text} {d : Cursor}
    (h : after? ks offset t = some d) :
    ks.length ≤ t.length ∧ d = (⟨offset, t⟩ : Cursor).advance ks.length := by
  induction ks generalizing offset t with
  | nil => exact ⟨Nat.zero_le _, (Option.some.inj h).symm⟩
  | cons k ks ih =>
    cases t with
    | nil => cases h
    | cons x t =>
      rw [after?] at h
      split at h
      · obtain ⟨hlength, rfl⟩ := ih h
        exact ⟨Nat.succ_le_succ hlength, (advance_succ ..).symm⟩
      · cases h

theorem eq_advance_of_mem_ends_word {w : Text} {c d : Cursor} (h : d ∈ (word w).ends c) :
    w.length ≤ c.rest.length ∧ d = c.advance w.length := by
  have h := eq_advance_of_after? (Option.mem_toList.mp h)
  rwa [List.length_map] at h

theorem mem_ends_times {k : CharClass} {n : ℕ} {c d : Cursor} :
    d ∈ (times n k).ends c ↔ c.Spans k n ∧ d = c.advance n := by
  obtain ⟨offset, t⟩ := c
  rw [times, ends, Option.mem_toList]
  induction n generalizing offset t with
  | zero => simp [after?, eq_comm, advance]
  | succ n ih =>
    cases t with
    | nil => simp [List.replicate_succ, after?]
    | cons x t =>
      rw [List.replicate_succ, after?, spans_succ, advance_succ]
      split <;> simp_all

theorem mem_ends_upTo {k : CharClass} {least extra : ℕ} {c d : Cursor} :
    d ∈ (upTo least k extra).ends c ↔
      ∃ n, least ≤ n ∧ n ≤ least + extra ∧ c.Spans k n ∧ d = c.advance n := by
  induction extra with
  | zero =>
    rw [upTo, mem_ends_times]
    constructor
    · rintro ⟨hspans, rfl⟩
      exact ⟨least, le_rfl, le_rfl, hspans, rfl⟩
    · rintro ⟨n, hn, hn', hspans, rfl⟩
      obtain rfl : n = least := le_antisymm hn' hn
      exact ⟨hspans, rfl⟩
  | succ extra ih =>
    rw [upTo, ends, List.mem_append, mem_ends_times, ih]
    constructor
    · rintro (⟨hspans, rfl⟩ | ⟨n, hn, hn', hd⟩)
      · exact ⟨least + extra + 1, by omega, le_rfl, hspans, rfl⟩
      · exact ⟨n, hn, by omega, hd⟩
    · rintro ⟨n, hn, hn', hspans, rfl⟩
      rcases Nat.lt_or_ge (least + extra) n with h | h
      · obtain rfl : n = least + extra + 1 := by omega
        exact .inl ⟨hspans, rfl⟩
      · exact .inr ⟨n, hn, h, hspans, rfl⟩

theorem ends_sequence_cons (p : Pattern) (ps : List Pattern) (c : Cursor) :
    (sequence (p :: ps)).ends c = (p.ends c).flatMap (sequence ps).ends := by
  cases ps with
  | nil => exact (List.flatMap_singleton' _).symm
  | cons q ps => rfl

theorem ends_oneOf {ps : List Pattern} (h : ps ≠ []) (c : Cursor) :
    (oneOf ps).ends c = ps.flatMap fun p => p.ends c := by
  induction ps with
  | nil => exact absurd rfl h
  | cons p ps ih =>
    cases ps with
    | nil => simp [oneOf]
    | cons q ps =>
      show p.ends c ++ (oneOf (q :: ps)).ends c = _
      rw [ih (List.cons_ne_nil q ps)]
      rfl

theorem mem_ends_words {ts : List Text} (h : ts ≠ []) {c d : Cursor} :
    d ∈ (words ts).ends c ↔ ∃ t ∈ ts, d ∈ (word t).ends c := by
  rw [words, ends_oneOf (by simpa using h)]
  simp

/-! ## 4. Refinement -/

/-- Every end of the first pattern is one of the second. -/
def Refines (p q : Pattern) : Prop := ∀ c, p.ends c ⊆ q.ends c

theorem Refines.refl (p : Pattern) : p.Refines p := fun _ => List.Subset.refl _

/-- **A sequence is refined part by part.** -/
theorem refines_sequence {ps qs : List Pattern} (h : List.Forall₂ Refines ps qs) :
    (sequence ps).Refines (sequence qs) := by
  induction h with
  | nil => exact .refl _
  | cons hpq _ ih =>
    intro c d hd
    rw [ends_sequence_cons, List.mem_flatMap] at hd ⊢
    obtain ⟨b, hb, hd⟩ := hd
    exact ⟨b, hpq c hb, ih b hd⟩

/-- The same parts do before others. -/
theorem refines_sequence_append {qs qs' : List Pattern} (ps : List Pattern)
    (h : List.Forall₂ Refines qs qs') :
    (sequence (ps ++ qs)).Refines (sequence (ps ++ qs')) :=
  refines_sequence (List.rel_append (List.forall₂_same.mpr fun p _ => Refines.refl p) h)

theorem refines_words {ts us : List Text} (hts : ts ≠ []) (h : ts ⊆ us) :
    (words ts).Refines (words us) := by
  have hus : us ≠ [] := List.ne_nil_of_mem (h (List.head_mem hts))
  intro c d hd
  obtain ⟨t, ht, hd⟩ := (mem_ends_words hts).mp hd
  exact (mem_ends_words hus).mpr ⟨t, h ht, hd⟩

theorem upTo_refines_someOf {k : CharClass} {extra : ℕ} :
    (upTo 1 k extra).Refines (someOf k) := by
  intro c d hd
  obtain ⟨n, hn, -, hspans, rfl⟩ := mem_ends_upTo.mp hd
  exact mem_ends_many.mpr ⟨n, hn, hspans, rfl⟩

end Pattern
end ThreatScan
