/-
# Words in any case

Where a word stands in a text, said without patterns: the text has its letters one after the other,
each in any case (`StandsAt`).  Stretches of a text that hold words of a list, none overlapping
another, are a choice, and `choiceSizes` are the sizes that a choice can have, in whatever order and
by whatever means its stretches were found.  `InTurn` says that a text holds pieces of several kinds
one after the other.

Below the letters of ASCII every code point is the only form of itself (`sameLetter_iff_of_lt`), so
a word without a line feed is never spelled with one.
-/
import ThreatScan.Text.Blank
import ThreatScan.Text.Case
import Mathlib.Data.List.Forall2
import Mathlib.Data.Set.Defs

namespace ThreatScan
namespace Text

/-! ## 1. Letters -/

/-- A run takes `c` to `d`. -/
def LowerRun.Takes (r : LowerRun) (c d : CodePoint) : Prop :=
  r.first ≤ c ∧ c ≤ r.last ∧ d = r.target + (c - r.first)

theorem lowerByRuns_cases (c : CodePoint) (rs : List LowerRun) :
    lowerByRuns c rs = c ∨ ∃ r ∈ rs, r.Takes c (lowerByRuns c rs) := by
  induction rs with
  | nil => exact .inl rfl
  | cons r rs ih =>
    have hlater : lowerByRuns c rs = c ∨ ∃ s ∈ r :: rs, s.Takes c (lowerByRuns c rs) := by
      rcases ih with h | ⟨s, hs, h⟩
      · exact .inl h
      · exact .inr ⟨s, List.mem_cons_of_mem r hs, h⟩
    rw [lowerByRuns]
    split
    case isTrue => exact .inl rfl
    case isFalse hfirst =>
      split
      case isTrue hlast =>
        split
        · exact .inr ⟨r, List.mem_cons_self, Nat.not_lt.mp hfirst, hlast, rfl⟩
        · exact hlater
      case isFalse => exact hlater

theorem lowerByBlocks_cases (c : CodePoint) (bs : List LowerBlock) :
    lowerByBlocks c bs = c ∨ ∃ b ∈ bs, ∃ r ∈ b.runs, r.Takes c (lowerByBlocks c bs) := by
  induction bs with
  | nil => exact .inl rfl
  | cons b bs ih =>
    rw [lowerByBlocks]
    split
    · exact .inl rfl
    · split
      · rcases lowerByRuns_cases c b.runs with h | ⟨r, hr, h⟩
        · exact .inl h
        · exact .inr ⟨b, List.mem_cons_self, r, hr, h⟩
      · rcases ih with h | ⟨b', hb', r, hr, h⟩
        · exact .inl h
        · exact .inr ⟨b', List.mem_cons_of_mem b hb', r, hr, h⟩

/-- **A small letter comes from itself, from a capital of ASCII or by a run of the table.** -/
theorem lowerOne_cases {c d : ℕ} (h : lowerOne c = d) :
    c = d ∨ 65 ≤ c ∧ c ≤ 90 ∧ d = c + 32 ∨ ∃ b ∈ lowerBlocks, ∃ r ∈ b.runs, r.Takes c d := by
  have hcases : (if c < 0x80 then (if 65 ≤ c ∧ c ≤ 90 then c + 32 else c)
      else lowerByBlocks c lowerBlocks) = d := h
  split at hcases
  case isTrue =>
    split at hcases
    case isTrue hletter => exact .inr (.inl ⟨hletter.1, hletter.2, hcases.symm⟩)
    case isFalse => exact .inl hcases
  case isFalse =>
    rw [← hcases]
    rcases lowerByBlocks_cases c lowerBlocks with hsame | htakes
    · exact .inl hsame.symm
    · exact .inr (.inr htakes)

/-- Nothing but itself has a lower case below the letters. -/
theorem eq_of_lowerOne {c d : ℕ} (hd : d < 65) (h : lowerOne c = d) : c = d := by
  have htargets : ∀ b ∈ lowerBlocks, ∀ r ∈ b.runs, 65 ≤ r.target := by decide +kernel
  rcases lowerOne_cases h with heq | ⟨hlow, -, rfl⟩ | ⟨b, hb, r, hr, -, -, rfl⟩
  · exact heq
  · omega
  · have htarget := htargets b hb r hr
    omega

/-- **A code point below the letters is the only form of itself.** -/
theorem sameLetter_iff_of_lt {c d : ℕ} (hd : d < 65) : sameLetter c d = true ↔ c = d := by
  have hlower : lowerOne d = d := by
    have hascii : d < 0x80 := by omega
    have hletter : ¬ (65 ≤ d ∧ d ≤ 90) := by omega
    exact (if_pos hascii).trans (if_neg hletter)
  rw [sameLetter, hlower, List.contains_iff_mem, letterForms, List.mem_cons]
  constructor
  · rintro (h | h)
    · exact eq_of_lowerOne hd h.symm
    · have hpartners : ∀ p ∈ casePartners, ∀ l ∈ p.2, 65 ≤ l := by decide +kernel
      cases hlookup : casePartners.lookup (lowerOne c) with
      | none =>
        rw [hlookup] at h
        cases h
      | some ls =>
        rw [hlookup] at h
        obtain ⟨before, after, hsplit, -⟩ := List.lookup_eq_some_iff.mp hlookup
        have hle := hpartners (lowerOne c, ls) (hsplit ▸ by simp) d h
        omega
  · rintro rfl
    exact .inl hlower.symm

/-! ## 2. Words -/

/-- `w` is the word `t` in any case. -/
def Spells (t w : Text) : Prop := List.Forall₂ (fun c x => sameLetter c x = true) t w

instance (t w : Text) : Decidable (Spells t w) := inferInstanceAs (Decidable (List.Forall₂ _ t w))

/-- One of the words in any case. -/
def IsOneOf (ts : List Text) (w : Text) : Prop := ∃ t ∈ ts, Spells t w

variable {ts : List Text} {t w content : Text}

@[simp] theorem isOneOf_cons : IsOneOf (t :: ts) w ↔ Spells t w ∨ IsOneOf ts w := by
  simp [IsOneOf]

theorem Spells.length_eq (h : Spells t w) : t.length = w.length := List.Forall₂.length_eq h

/-- Below the letters a word is spelled with what it has itself. -/
theorem Spells.mem_of_lt (h : Spells t w) {d : ℕ} (hd : d < 65) (hmem : d ∈ w) : d ∈ t := by
  obtain ⟨i, hi, rfl⟩ := List.mem_iff_getElem.mp hmem
  have hi' : i < t.length := h.length_eq ▸ hi
  have hsame : sameLetter t[i] w[i] = true := List.Forall₂.get h hi' hi
  exact (sameLetter_iff_of_lt hd).mp hsame ▸ List.getElem_mem hi'

/-- The word `t` stands at the place `i` of the content, in any case. -/
def StandsAt (t content : Text) (i : ℕ) : Prop :=
  i + t.length ≤ content.length ∧ Spells t ((content.drop i).take t.length)

instance (t content : Text) (i : ℕ) : Decidable (StandsAt t content i) :=
  inferInstanceAs (Decidable (_ ∧ _))

theorem standsAt_iff {i : ℕ} :
    StandsAt t content i ↔ ∃ a w b, content = a ++ (w ++ b) ∧ a.length = i ∧ Spells t w := by
  constructor
  · rintro ⟨hle, h⟩
    refine ⟨content.take i, _, (content.drop i).drop t.length, ?_, ?_, h⟩
    · rw [List.take_append_drop, List.take_append_drop]
    · rw [List.length_take]
      omega
  · rintro ⟨a, w, b, rfl, rfl, h⟩
    have hlength := h.length_eq
    constructor
    · simp only [List.length_append]
      omega
    · rwa [List.drop_left, hlength, List.take_left]

/-! ## 3. Choices -/

/-- A place where a word may stand. -/
structure Stretch where
  start : ℕ
  word : Text
deriving DecidableEq, Repr

/-- The place behind the word. -/
def Stretch.stop (p : Stretch) : ℕ := p.start + p.word.length

/-- The stretches do not overlap. -/
def Stretch.Apart (p q : Stretch) : Prop := p.stop ≤ q.start ∨ q.stop ≤ p.start

instance (p q : Stretch) : Decidable (p.Apart q) := inferInstanceAs (Decidable (_ ∨ _))

/-- The stretches hold words of the list, and none overlaps another. -/
structure Choice (ts : List Text) (content : Text) (ps : List Stretch) : Prop where
  stands : ∀ p ∈ ps, p.word ∈ ts ∧ StandsAt p.word content p.start
  apart : ps.Pairwise Stretch.Apart

/-- How many words of the list can stand in the content without overlap. -/
def choiceSizes (ts : List Text) (content : Text) : Set ℕ :=
  {n | ∃ ps, Choice ts content ps ∧ ps.length = n}

/-! ## 4. Pieces in turn -/

/-- The text holds a piece of each kind one after the other, none overlapping another. -/
inductive InTurn : List (Text → Prop) → Text → Prop
  | nil (t : Text) : InTurn [] t
  | cons (a : Text) {w t : Text} {kind : Text → Prop} {kinds : List (Text → Prop)} :
    kind w → InTurn kinds t → InTurn (kind :: kinds) (a ++ (w ++ t))

namespace InTurn

variable {kind : Text → Prop} {kinds : List (Text → Prop)}

theorem prepend (a : Text) (h : InTurn kinds t) : InTurn kinds (a ++ t) := by
  cases h with
  | nil => exact .nil _
  | cons b hw h =>
    rw [← List.append_assoc]
    exact .cons (a ++ b) hw h

theorem cons_iff :
    InTurn (kind :: kinds) t ↔ ∃ a w s, t = a ++ (w ++ s) ∧ kind w ∧ InTurn kinds s := by
  constructor
  · intro h
    cases h with
    | cons a hw h => exact ⟨a, _, _, rfl, hw, h⟩
  · rintro ⟨a, w, s, rfl, hw, h⟩
    exact .cons a hw h

end InTurn

end Text
end ThreatScan
