/-
# The greatest number of occurrences

A search takes the first occurrence from the left, then the first one behind it, and so on.  Other
choices are possible: `p.Packs t n` says that `n` occurrences of `p` stand in `t`, none overlapping
another, wherever they are.  A search does not always find the greatest such number, since an
occurrence that starts first may end last and cover two others.  It does for a prompt pattern, whose
preferred occurrence at a place ends no later than any that starts there or further on
(`packs_iff_le_count`); a pattern that takes texts of one length only is prompt.

Occurrences that do not overlap stay where they are when text is put around them, so a prompt
pattern occurs in a text no less often than in a part of it (`count_le_of_part`), although the
search may take others there.
-/
import ThreatScan.Proofs.Pattern.Extension

namespace ThreatScan
namespace Pattern

open Cursor

/-! ## 1. Occurrences that do not overlap -/

/-- `n` occurrences of the pattern stand in the text one behind the other: in front of each there is
any text, and the next ones stand in what follows it. -/
inductive Packs (p : Pattern) : Text → ℕ → Prop
  | zero (t : Text) : p.Packs t 0
  | next (a w : Text) {t : Text} {n : ℕ} :
    p.Accepts w → p.Packs t n → p.Packs (a ++ (w ++ t)) (n + 1)

namespace Packs

variable {p : Pattern} {t t' : Text} {n : ℕ}

theorem prepend (a : Text) (h : p.Packs t n) : p.Packs (a ++ t) n := by
  cases h with
  | zero => exact .zero _
  | next b w hw h =>
    rw [← List.append_assoc]
    exact .next (a ++ b) w hw h

theorem append (b : Text) (h : p.Packs t n) : p.Packs (t ++ b) n := by
  induction h with
  | zero => exact .zero _
  | next a w hw _ ih =>
    rw [List.append_assoc, List.append_assoc]
    exact .next a w hw ih

/-- Occurrences in a part of a text are occurrences in the text. -/
theorem of_part (h : p.Packs t n) (hpart : t <:+: t') : p.Packs t' n := by
  obtain ⟨a, b, rfl⟩ := hpart
  exact (h.prepend a).append b

/-- Fewer occurrences do not overlap, either. -/
theorem of_le {k : ℕ} (h : p.Packs t n) (hk : k ≤ n) : p.Packs t k := by
  induction h generalizing k with
  | zero t => exact Nat.le_zero.mp hk ▸ .zero t
  | next a w hw _ ih =>
    cases k with
    | zero => exact .zero _
    | succ k => exact .next a w hw (ih (Nat.le_of_succ_le_succ hk))

/-- The first of the occurrences, and what follows it. -/
theorem exists_of_succ (h : p.Packs t (n + 1)) :
    ∃ a w s, t = a ++ (w ++ s) ∧ p.Accepts w ∧ p.Packs s n := by
  cases h with
  | next a w hw h => exact ⟨a, w, _, rfl, hw, h⟩

theorem eq_zero_of_nil (hlength : 0 < p.leastLength) (h : p.Packs [] n) : n = 0 := by
  cases n with
  | zero => rfl
  | succ n =>
    obtain ⟨a, w, s, ht, hw, -⟩ := h.exists_of_succ
    have hempty : w = [] := (List.append_eq_nil_iff.mp (List.append_eq_nil_iff.mp ht.symm).2).1
    have hle := leastLength_le hw
    rw [hempty, List.length_nil] at hle
    omega

end Packs

/-! ## 2. Prompt patterns -/

/-- The pattern takes something, neither commits itself nor asks for the beginning of the text, and
if it occurs at the beginning of a text, none of its occurrences in the text ends earlier. -/
structure IsPrompt (p : Pattern) : Prop where
  plain : p.isPlain = true
  length : 0 < p.leastLength
  first : ∀ a w t m, p.reach? (a ++ (w ++ t)) = some m → p.Accepts w → m ≤ a.length + w.length

variable {p : Pattern} {t t' : Text} {n m : ℕ}

theorem isFloating_of_isPlain (hp : p.isPlain = true) : p.isFloating = true := by
  induction p with
  | each => rfl
  | atStart => cases hp
  | seq p q hp' hq' =>
    rw [isPlain, Bool.and_eq_true] at hp
    rw [isFloating, hp' hp.1, hq' hp.2]
    rfl
  | alt p q hp' hq' =>
    rw [isPlain, Bool.and_eq_true] at hp
    rw [isFloating, hp' hp.1, hq' hp.2]
    rfl
  | many => rfl
  | commit => cases hp

/-- The preferred occurrence at the beginning of a text takes a text that the pattern accepts. -/
theorem exists_of_reach? (h : p.reach? t = some m) :
    ∃ w s, t = w ++ s ∧ w.length = m ∧ p.Accepts w := by
  obtain ⟨d, hd, rfl⟩ := Option.map_eq_some_iff.mp h
  obtain ⟨w, hw, haccepts⟩ := accepts_of_mem_ends (List.mem_of_mem_head? hd)
  refine ⟨w, d.rest, hw.rest, ?_, haccepts⟩
  rw [hw.offset]
  exact (Nat.zero_add _).symm

/-- Where a plain pattern accepts a text, it occurs. -/
theorem reach?_ne_none (hp : p.isPlain = true) {w : Text} (hw : p.Accepts w) (s : Text) :
    p.reach? (w ++ s) ≠ none := by
  have hmem : (⟨w.length, s⟩ : Cursor) ∈ p.ends ⟨0, w ++ s⟩ :=
    mem_ends_of_accepts hp ⟨rfl, (Nat.zero_add _).symm⟩ hw
  rw [reach?, ne_eq, Option.map_eq_none_iff, List.head?_eq_none_iff]
  exact List.ne_nil_of_mem hmem

/-- **A pattern that takes texts of one length is prompt.** -/
theorem isPrompt_of_uniform (hplain : p.isPlain = true) (hlength : 0 < p.leastLength)
    (huniform : p.greatestLength? = some p.leastLength) : p.IsPrompt where
  plain := hplain
  length := hlength
  first a w t m hm hw := by
    obtain ⟨u, s, -, rfl, hu⟩ := exists_of_reach? hm
    have hle := le_greatestLength huniform hu
    have hge := leastLength_le hw
    omega

/-! ## 3. The search finds as many as there can be -/

/-- What a search counts does not overlap. -/
theorem packs_tally (hlength : 0 < p.leastLength) (t : Text) (skip : ℕ) :
    p.Packs (t.drop skip) (p.tally t skip) := by
  induction t generalizing skip with
  | nil => exact .zero _
  | cons x t ih =>
    cases skip with
    | succ skip => exact ih skip
    | zero =>
      rw [List.drop_zero, tally]
      cases hreach : p.reach? (x :: t) with
      | none => exact (ih 0).prepend [x]
      | some m =>
        obtain ⟨w, s, hw, rfl, haccepts⟩ := exists_of_reach? hreach
        have hle := leastLength_le haccepts
        have hs : t.drop (w.length - 1) = s := by
          rw [← List.drop_succ_cons (a := x), Nat.sub_add_cancel (by omega), hw, List.drop_left]
        rw [hw, ← hs]
        exact .next [] w haccepts (ih (w.length - 1))

/-- **A search for a prompt pattern misses none.**  The induction follows the search: what it skips
holds no occurrence, and what it takes costs one occurrence at most, because none of the others
ends before it. -/
theorem le_tally (hp : p.IsPrompt) (t : Text) (skip : ℕ) (h : p.Packs (t.drop skip) n) :
    n ≤ p.tally t skip := by
  induction t generalizing skip n with
  | nil =>
    rw [List.drop_nil] at h
    rw [h.eq_zero_of_nil hp.length]
    exact Nat.zero_le _
  | cons x t ih =>
    cases skip with
    | succ skip => exact ih skip h
    | zero =>
      rw [List.drop_zero] at h
      cases n with
      | zero => exact Nat.zero_le _
      | succ n =>
        obtain ⟨a, w, s, ht, hw, hs⟩ := h.exists_of_succ
        rw [tally]
        cases hreach : p.reach? (x :: t) with
        | none =>
          cases a with
          | nil =>
            rw [ht] at hreach
            exact absurd hreach (reach?_ne_none hp.plain hw s)
          | cons y a =>
            obtain ⟨-, rfl⟩ := List.cons.inj ht
            exact ih 0 (.next a w hw hs)
        | some m =>
          rw [ht] at hreach
          have hfirst := hp.first a w s m hreach hw
          have hpos := Nat.lt_of_lt_of_le hp.length (leastLength_le hw)
          -- Behind the occurrence that the search takes, all but the first one are left.
          have hrest : ∃ b, t.drop (m - 1) = b ++ s := by
            have hdrop : t = (a ++ w ++ s).drop 1 := by
              rw [List.append_assoc, ← ht]
              rfl
            rw [hdrop, List.drop_drop]
            exact ⟨_, List.drop_append_of_le_length (by rw [List.length_append]; omega)⟩
          obtain ⟨b, hb⟩ := hrest
          refine Nat.succ_le_succ (ih (m - 1) ?_)
          rw [hb]
          exact hs.prepend b

/-- **The count of a prompt pattern is the greatest number of occurrences** that do not overlap. -/
theorem packs_iff_le_count (hp : p.IsPrompt) : p.Packs t n ↔ n ≤ p.count t := by
  rw [count_eq_tally hp.length (isFloating_of_isPlain hp.plain)]
  constructor
  · exact le_tally hp t 0
  · intro hn
    exact (packs_tally hp.length t 0).of_le hn

/-- **A text has no fewer occurrences than a part of it.** -/
theorem count_le_of_part (hp : p.IsPrompt) (h : t <:+: t') : p.count t ≤ p.count t' :=
  (packs_iff_le_count hp).mp (((packs_iff_le_count hp).mpr le_rfl).of_part h)

end Pattern
end ThreatScan
