/-
# The places of an occurrence

Wherever a text of the list begins that a pattern takes, there is a place of it (`placesIn`).  A
search counts fewer than there are places if an occurrence can begin within another one, since it
goes on behind what it has taken.  If none can, it counts all of them (`encard_placesIn`).

That none can is read off the classes of the words that the pattern takes: `TakesApart` lists these
and compares every one with what follows a place of another.
-/
import ThreatScan.Proofs.Pattern.Surroundings
import ThreatScan.Proofs.Pattern.Words
import Mathlib.Data.Set.Card

namespace ThreatScan
namespace Pattern

variable {p : Pattern} {t w r : Text} {x : CodePoint} {kss : List (List CharClass)}

/-! ## 1. Places -/

/-- The places of a text where something begins that the pattern takes. -/
def placesIn (p : Pattern) (t : Text) : Set ℕ := {i | ∃ w r, t.drop i = w ++ r ∧ p.Accepts w}

theorem mem_placesIn_add {n : ℕ} : n + w.length ∈ p.placesIn (w ++ r) ↔ n ∈ p.placesIn r := by
  show (∃ _, _) ↔ ∃ _, _
  rw [Nat.add_comm, ← List.drop_drop, List.drop_left]

/-- The places in a text are those in its first part and those in what follows. -/
theorem placesIn_append (w r : Text) : p.placesIn (w ++ r) =
    {i ∈ p.placesIn (w ++ r) | i < w.length} ∪ (· + w.length) '' p.placesIn r := by
  ext i
  constructor
  · intro hi
    rcases lt_or_ge i w.length with hlt | hge
    · exact .inl ⟨hi, hlt⟩
    · obtain ⟨n, rfl⟩ := Nat.exists_eq_add_of_le' hge
      exact .inr ⟨n, mem_placesIn_add.mp hi, rfl⟩
  · rintro (⟨hi, -⟩ | ⟨n, hn, rfl⟩)
    · exact hi
    · exact mem_placesIn_add.mpr hn

/-! ## 2. Words apart -/

/-- The pattern takes the words of the list, and none of them can begin within another one, behind
its first letter. -/
structure TakesApart (p : Pattern) (kss : List (List CharClass)) : Prop where
  plain : p.isPlain = true
  length : 0 < p.leastLength
  accepts : ∀ w, p.Accepts w ↔ ∃ ks ∈ kss, Fits ks w
  apart : ∀ ks ∈ kss, ∀ ks' ∈ kss, canBeginWithin ks ks' = false

namespace TakesApart

variable (hp : p.TakesApart kss)
include hp

/-- Nothing begins within what is taken. -/
theorem notMem_placesIn (hw : p.Accepts w) {i : ℕ} (hpos : 0 < i) (hi : i < w.length) :
    i ∉ p.placesIn (w ++ r) := by
  rintro ⟨u, s, hsplit, hu⟩
  obtain ⟨ks, hks, hfits⟩ := (hp.accepts w).mp hw
  obtain ⟨ks', hks', hfits'⟩ := (hp.accepts u).mp hu
  rw [List.drop_append_of_le_length hi.le] at hsplit
  rw [← List.take_append_drop i w] at hfits
  have hfront : w.take i ≠ [] := List.length_pos_iff.mp (by rw [List.length_take]; omega)
  have hback : w.drop i ≠ [] := List.length_pos_iff.mp (by rw [List.length_drop]; omega)
  have hbegins := canBeginWithin_of_fits hfits hfront hback hfits' (List.prefix_append _ r)
    ⟨s, hsplit.symm⟩
  rw [hp.apart ks hks ks' hks'] at hbegins
  cases hbegins

/-- **A search finds every place** if no occurrence can begin within another one. -/
theorem encard_placesIn (t : Text) : (p.placesIn t).encard = p.count t := by
  induction hn : t.length using Nat.strong_induction_on generalizing t with
  | _ n ih =>
    rcases exists_step hp.length t with hnone | ⟨w, r, rfl, hw, haccepts, hsome⟩
    · -- Nothing begins here, and what begins further on does so in the rest.
      have hzero : 0 ∉ p.placesIn t := by
        rintro ⟨w, r, rfl, hw⟩
        exact reach?_ne_none hp.plain hw r hnone
      cases t with
      | nil =>
        rw [count_nil hp.length (isFloating_of_isPlain hp.plain), Nat.cast_zero,
          Set.encard_eq_zero, Set.eq_empty_iff_forall_notMem]
        intro i hi
        have hsame : i ∈ p.placesIn [] ↔ 0 ∈ p.placesIn [] := by simp [placesIn]
        exact hzero (hsame.mp hi)
      | cons x t =>
        have hrest : p.placesIn (x :: t) = (· + 1) '' p.placesIn t := by
          refine (placesIn_append [x] t).trans (Set.union_eq_self_of_subset_left ?_)
          rintro i ⟨hi, hlt⟩
          obtain rfl := Nat.lt_one_iff.mp hlt
          exact absurd hi hzero
        rw [hrest, (add_left_injective 1).encard_image, count_of_none hp.plain hp.length hnone]
        exact ih t.length (by simp [← hn]) t rfl
    · -- What is taken begins here, and nothing begins within it.
      have hfirst : {i ∈ p.placesIn (w ++ r) | i < w.length} = {0} := by
        ext i
        constructor
        · rintro ⟨hi, hlt⟩
          by_contra hne
          exact hp.notMem_placesIn haccepts (Nat.pos_of_ne_zero hne) hlt hi
        · rintro rfl
          exact ⟨⟨w, r, rfl, haccepts⟩, List.length_pos_iff.mpr hw⟩
      have hpos := List.length_pos_iff.mpr hw
      have hzero : 0 ∉ (· + w.length) '' p.placesIn r := by
        rintro ⟨i, -, heq⟩
        exact hpos.ne' (Nat.add_eq_zero_iff.mp heq).2
      rw [placesIn_append, hfirst, Set.singleton_union, Set.encard_insert_of_notMem hzero,
        (add_left_injective _).encard_image, count_of_some hp.plain hp.length hsome hw,
        ih r.length (by simp [← hn, hpos]) r rfl]
      rfl

end TakesApart

/-! ## 3. Words in any case -/

/-- The words themselves are the list. -/
theorem takesApart_words {ts : List Text} (hts : ts ≠ []) (hnil : [] ∉ ts)
    (hapart : ∀ t ∈ ts, ∀ u ∈ ts,
      canBeginWithin (t.map CharClass.letter) (u.map CharClass.letter) = false) :
    (words ts).TakesApart (ts.map fun t => t.map CharClass.letter) where
  plain := isPlain_words ts
  length := leastLength_words hts hnil
  accepts w := by
    rw [accepts_words hts]
    simp only [List.mem_map, exists_exists_and_eq_and]
    exact exists_congr fun t => and_congr_right fun _ => accepts_word.symm
  apart := by simpa using hapart

/-- **The places of words are where they stand.** -/
theorem placesIn_words {ts : List Text} (hts : ts ≠ []) (hnil : [] ∉ ts) (content : Text) :
    (words ts).placesIn content = {i | ∃ t ∈ ts, Text.StandsAt t content i} := by
  ext i
  constructor
  · rintro ⟨w, r, hdrop, hw⟩
    obtain ⟨t, ht, hspells⟩ := (accepts_words hts).mp hw
    refine ⟨t, ht, Text.standsAt_iff.mpr ⟨content.take i, w, r, ?_, ?_, hspells⟩⟩
    · rw [← hdrop, List.take_append_drop]
    · have hpos : 0 < w.length :=
        hspells.length_eq ▸ List.length_pos_iff.mpr fun hempty => hnil (hempty ▸ ht)
      have hlength := congrArg List.length hdrop
      rw [List.length_drop, List.length_append] at hlength
      rw [List.length_take]
      omega
  · rintro ⟨t, ht, hstands⟩
    obtain ⟨a, w, b, rfl, rfl, hspells⟩ := Text.standsAt_iff.mp hstands
    exact ⟨w, b, by rw [List.drop_left], (accepts_words hts).mpr ⟨t, ht, hspells⟩⟩

end Pattern
end ThreatScan
