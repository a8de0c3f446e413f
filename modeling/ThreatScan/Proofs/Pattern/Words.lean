/-
# Patterns for words

A pattern for words takes a text if it is one of the words in any case (`accepts_words`), so what a
search counts is a choice of stretches, and a prompt pattern counts as many as there can be
(`isGreatest_count_words`).

Whether the pattern is prompt depends on the words only.  It fails if a word can end within another
one, as the shorter word is then covered by the longer one that starts before it; `noneEndsWithin`
rules that out by comparing every word with what follows a place of another one.
-/
import ThreatScan.Proofs.Pattern.Packing
import ThreatScan.Proofs.Text.Spelling
import Mathlib.Data.List.Sort
import Mathlib.Order.Bounds.Basic

namespace ThreatScan

open Text (Choice IsOneOf Spells StandsAt Stretch choiceSizes sameLetter)

/-- The class of a letter has what is the same letter. -/
theorem CharClass.has_letter (c x : CodePoint) : (letter c).has x = sameLetter c x := by
  have hcovers (ls : List CodePoint) (y : CodePoint) :
      covers y (ls.map fun l => (l, l)) = ls.contains y := by
    induction ls with
    | nil => rfl
    | cons l ls ih =>
      have hrange : (decide (l ≤ y) && decide (y ≤ l)) = (y == l) := by
        rw [Bool.eq_iff_iff, Bool.and_eq_true, decide_eq_true_eq, decide_eq_true_eq, beq_iff_eq]
        exact ⟨fun h => Nat.le_antisymm h.2 h.1, fun h => ⟨Nat.le_of_eq h.symm, Nat.le_of_eq h⟩⟩
      rw [List.map_cons, covers, ih, hrange, List.contains_cons]
  exact hcovers _ _

namespace Pattern

variable {ts : List Text} {t w content : Text} {n : ℕ}

/-! ## 1. What is taken -/

theorem accepts_word : (word t).Accepts w ↔ Spells t w := by
  show List.Forall₂ (fun k x => CharClass.has k x = true) (t.map CharClass.letter) w ↔ _
  rw [List.forall₂_map_left_iff]
  simp only [CharClass.has_letter]
  rfl

theorem accepts_words (hts : ts ≠ []) : (words ts).Accepts w ↔ IsOneOf ts w := by
  induction ts with
  | nil => exact absurd rfl hts
  | cons t ts ih =>
    cases ts with
    | nil =>
      show (word t).Accepts w ↔ _
      simp [accepts_word, IsOneOf]
    | cons u us =>
      show (word t).Accepts w ∨ (words (u :: us)).Accepts w ↔ _
      rw [accepts_word, ih (List.cons_ne_nil u us)]
      exact Text.isOneOf_cons.symm

theorem accepts_words_eq (hts : ts ≠ []) : (words ts).Accepts = IsOneOf ts :=
  funext fun _ => propext (accepts_words hts)

theorem isPlain_words (ts : List Text) : (words ts).isPlain = true := by
  induction ts with
  | nil => rfl
  | cons t ts ih =>
    cases ts with
    | nil => rfl
    | cons u us => exact ih

theorem leastLength_words (hts : ts ≠ []) (hnil : [] ∉ ts) : 0 < (words ts).leastLength := by
  induction ts with
  | nil => exact absurd rfl hts
  | cons t ts ih =>
    obtain ⟨ht, hnil⟩ := not_or.mp (List.mem_cons.not.mp hnil)
    have hword : 0 < (word t).leastLength := by
      rw [word, leastLength, List.length_map]
      exact List.length_pos_iff.mpr (Ne.symm ht)
    cases ts with
    | nil => exact hword
    | cons u us => exact lt_min hword (ih (List.cons_ne_nil u us) hnil)

/-- A word is not spelled with what is below the letters and not in it. -/
theorem excludes_word {d : ℕ} (hd : d < 65) (hmem : d ∉ t) : (word t).excludes d = true := by
  refine List.all_eq_true.mpr ?_
  intro k hk
  obtain ⟨c, hc, rfl⟩ := List.mem_map.mp hk
  rw [CharClass.has_letter, Bool.not_eq_true', Bool.eq_false_iff]
  intro hsame
  exact hmem ((Text.sameLetter_iff_of_lt hd).mp hsame ▸ hc)

/-! ## 2. Words are prompt -/

/-- No code point is the same letter as both. -/
def areApart (c d : CodePoint) : Bool :=
  (Text.letterForms (Text.lowerOne c)).all fun l =>
    !(Text.letterForms (Text.lowerOne d)).contains l

/-- Some letters at the same place of both words are apart. -/
def clash (t u : Text) : Bool := (t.zip u).any fun p => areApart p.1 p.2

/-- No word can stand within another one and end before it. -/
def noneEndsWithin (ts : List Text) : Bool :=
  ts.all fun t => ts.all fun u => (List.range t.length).all fun i =>
    decide (t.length ≤ i + u.length) || clash (t.drop i) u

theorem areApart_eq_false {c d x : CodePoint} (hc : sameLetter c x = true)
    (hd : sameLetter d x = true) : areApart c d = false := by
  rw [sameLetter, List.contains_iff_mem] at hc
  refine List.all_eq_false.mpr ⟨_, hc, ?_⟩
  simpa [sameLetter] using hd

/-- Words that begin a text both do not clash. -/
theorem clash_eq_false {u r : Text} (ht : Spells t (w ++ r)) (hu : Spells u w) :
    clash t u = false := by
  refine List.any_eq_false.mpr ?_
  intro p hp
  obtain ⟨i, hi, rfl⟩ := List.mem_iff_getElem.mp hp
  rw [List.length_zip, Nat.lt_min] at hi
  have hiw : i < w.length := hu.length_eq ▸ hi.2
  have hir : i < (w ++ r).length := ht.length_eq ▸ hi.1
  have hc : sameLetter t[i] (w ++ r)[i] = true := List.Forall₂.get ht hi.1 hir
  have hd : sameLetter u[i] w[i] = true := List.Forall₂.get hu hi.2 hiw
  rw [List.getElem_append_left hiw] at hc
  rw [List.getElem_zip, areApart_eq_false hc hd]
  exact Bool.false_ne_true

/-- **Words of which none can end within another one are prompt.** -/
theorem isPrompt_words (hts : ts ≠ []) (hnil : [] ∉ ts) (hends : noneEndsWithin ts = true) :
    (words ts).IsPrompt where
  plain := isPlain_words ts
  length := leastLength_words hts hnil
  first a w s m hm hw := by
    obtain ⟨v, r, hv, rfl, haccepts⟩ := exists_of_reach? hm
    obtain ⟨t, ht, hspells⟩ := (accepts_words hts).mp haccepts
    obtain ⟨u, hu, hspells'⟩ := (accepts_words hts).mp hw
    by_contra hlt
    rw [not_le] at hlt
    -- The other occurrence lies within the preferred one and ends before it.
    obtain ⟨b, rfl⟩ : ∃ b, v = a ++ (w ++ b) := by
      rw [← List.append_assoc] at hv
      obtain ⟨b, rfl, -⟩ := (List.append_eq_append_iff.mp hv).resolve_right <| by
        rintro ⟨b, hb, -⟩
        have hlength := congrArg List.length hb
        rw [List.length_append, List.length_append] at hlength
        omega
      exact ⟨b, List.append_assoc ..⟩
    have hdrop : Spells (t.drop a.length) (w ++ b) := by
      have hdrop := List.forall₂_drop a.length hspells
      rwa [List.drop_left] at hdrop
    have hlength := hspells.length_eq
    have hlength' := hspells'.length_eq
    rw [List.length_append, List.length_append] at hlength hlt
    have hcheck := List.all_eq_true.mp (List.all_eq_true.mp (List.all_eq_true.mp hends t ht) u hu)
      a.length (List.mem_range.mpr (by omega))
    rw [clash_eq_false hdrop hspells', Bool.or_false, decide_eq_true_eq] at hcheck
    omega

/-- **A pattern is prompt if all it takes ends with a mark**, which stands nowhere before. -/
theorem isPrompt_of_mark {p : Pattern} (hplain : p.isPlain = true) (hlength : 0 < p.leastLength)
    (x : CodePoint) (hmark : ∀ w, p.Accepts w → ∃ v, w = v ++ [x] ∧ x ∉ v) : p.IsPrompt where
  plain := hplain
  length := hlength
  first a w s m hm hw := by
    obtain ⟨u, r, hu, rfl, haccepts⟩ := exists_of_reach? hm
    obtain ⟨v, rfl, -⟩ := hmark w hw
    obtain ⟨v', rfl, hnotMem⟩ := hmark u haccepts
    by_contra hlt
    rw [not_le] at hlt
    have hu' : (a ++ (v ++ [x])) ++ s = (v' ++ [x]) ++ r := by rw [List.append_assoc, hu]
    obtain ⟨b, hb, -⟩ := (List.append_eq_append_iff.mp hu').resolve_right <| by
      rintro ⟨b, hb, -⟩
      have hlength := congrArg List.length hb
      simp only [List.length_append] at hlength hlt
      omega
    -- What is left of the preferred occurrence has its own mark, so the other one lies before.
    rcases List.eq_nil_or_concat' b with rfl | ⟨b, y, rfl⟩
    · rw [List.append_nil] at hb
      have hlength := congrArg List.length hb
      simp only [List.length_append] at hlength hlt
      omega
    · rw [← List.append_assoc] at hb
      obtain ⟨rfl, -⟩ := List.append_inj' hb rfl
      exact hnotMem (by simp)

/-! ## 3. Choices of stretches -/

/-- The same stretch behind `k` further code points. -/
def moved (k : ℕ) (p : Stretch) : Stretch := ⟨k + p.start, p.word⟩

theorem standsAt_moved {a : Text} {p : Stretch} (h : StandsAt p.word content p.start) :
    StandsAt (moved a.length p).word (a ++ content) (moved a.length p).start := by
  obtain ⟨b, w, c, rfl, hb, hw⟩ := Text.standsAt_iff.mp h
  refine Text.standsAt_iff.mpr ⟨a ++ b, w, c, (List.append_assoc ..).symm, ?_, hw⟩
  rw [List.length_append, hb]
  rfl

theorem exists_choice_of_packs (hts : ts ≠ []) (h : (words ts).Packs content n) :
    ∃ ps, Choice ts content ps ∧ ps.length = n := by
  induction h with
  | zero t => exact ⟨[], ⟨by simp, .nil⟩, rfl⟩
  | @next a w t n hw _ ih =>
    obtain ⟨u, hu, hspells⟩ := (accepts_words hts).mp hw
    obtain ⟨ps, hps, rfl⟩ := ih
    have hlength : a.length + u.length = (a ++ w).length := by
      rw [List.length_append, hspells.length_eq]
    refine ⟨⟨a.length, u⟩ :: ps.map (moved (a ++ w).length), ⟨?_, ?_⟩, by simp⟩
    · refine List.forall_mem_cons.mpr ⟨⟨hu, ?_⟩, ?_⟩
      · exact Text.standsAt_iff.mpr ⟨a, w, t, rfl, rfl, hspells⟩
      · intro q hq
        obtain ⟨p, hp, rfl⟩ := List.mem_map.mp hq
        obtain ⟨hword, hstands⟩ := hps.stands p hp
        rw [← List.append_assoc]
        exact ⟨hword, standsAt_moved hstands⟩
    · refine List.pairwise_cons.mpr ⟨?_, ?_⟩
      · intro q hq
        obtain ⟨p, -, rfl⟩ := List.mem_map.mp hq
        exact .inl (hlength.trans_le (Nat.le_add_right _ _))
      · refine List.pairwise_map.mpr (hps.apart.imp ?_)
        intro p q hpq
        simp only [Stretch.Apart, Stretch.stop, moved] at hpq ⊢
        omega

/-- Stretches one behind the other do not overlap as occurrences. -/
theorem packs_of_ordered (hts : ts ≠ []) {ps : List Stretch}
    (hstands : ∀ p ∈ ps, p.word ∈ ts ∧ StandsAt p.word content p.start)
    (hordered : ps.Pairwise fun p q => p.stop ≤ q.start) {k : ℕ} (hk : ∀ p ∈ ps, k ≤ p.start) :
    (words ts).Packs (content.drop k) ps.length := by
  induction ps generalizing k with
  | nil => exact .zero _
  | cons p ps ih =>
    obtain ⟨⟨hword, hp⟩, hstands⟩ := List.forall_mem_cons.mp hstands
    obtain ⟨hnext, hordered⟩ := List.pairwise_cons.mp hordered
    have hrest := ih hstands hordered hnext
    have hk := hk p List.mem_cons_self
    have hsplit : content.drop k = (content.drop k).take (p.start - k) ++
        ((content.drop p.start).take p.word.length ++ content.drop p.stop) := by
      have hstart : content.drop p.start = (content.drop k).drop (p.start - k) := by
        rw [List.drop_drop, Nat.add_sub_cancel' hk]
      rw [Stretch.stop, ← List.drop_drop, List.take_append_drop, hstart, List.take_append_drop]
    rw [hsplit]
    exact .next _ _ ((accepts_words hts).mpr ⟨p.word, hword, hp.2⟩) hrest

/-- **Occurrences that do not overlap are a choice of stretches**, in any order. -/
theorem packs_words_iff (hts : ts ≠ []) (hnil : [] ∉ ts) :
    (words ts).Packs content n ↔ n ∈ choiceSizes ts content := by
  constructor
  · exact exists_choice_of_packs hts
  · rintro ⟨ps, hps, rfl⟩
    -- Sorted by their starts, stretches that are apart come one behind the other.
    let sorted := ps.mergeSort fun p q => decide (p.start ≤ q.start)
    have hperm : sorted.Perm ps := List.mergeSort_perm ..
    have hstarts : sorted.Pairwise fun p q => p.start ≤ q.start := by
      have hpairwise : sorted.Pairwise fun p q => decide (p.start ≤ q.start) = true := by
        refine List.pairwise_mergeSort ?_ ?_ ps
        · intro a b c
          simpa only [decide_eq_true_eq] using le_trans
        · intro a b
          simpa only [Bool.or_eq_true, decide_eq_true_eq] using le_total _ _
      simpa using hpairwise
    have hapart : sorted.Pairwise Stretch.Apart :=
      hperm.symm.pairwise hps.apart fun h => h.symm
    have hstands : ∀ p ∈ sorted, p.word ∈ ts ∧ StandsAt p.word content p.start :=
      fun p hp => hps.stands p (hperm.mem_iff.mp hp)
    have hordered : sorted.Pairwise fun p q => p.stop ≤ q.start := by
      refine (hstarts.and hapart).imp_of_mem ?_
      rintro p q - hq ⟨hle, h | h⟩
      · exact h
      · have hpos : 0 < q.word.length := by
          refine List.length_pos_iff.mpr ?_
          rintro heq
          exact hnil (heq ▸ (hstands q hq).1)
        rw [Stretch.stop] at h
        omega
    have hpacks := packs_of_ordered hts hstands hordered (k := 0) fun _ _ => Nat.zero_le _
    rwa [List.drop_zero, hperm.length_eq] at hpacks

/-- **The count of words is the size of the greatest choice**, if none can end within another. -/
theorem isGreatest_count_words (hts : ts ≠ []) (hnil : [] ∉ ts)
    (hends : noneEndsWithin ts = true) (content : Text) :
    IsGreatest (choiceSizes ts content) ((words ts).count content) := by
  have hprompt := isPrompt_words hts hnil hends
  constructor
  · exact (packs_words_iff hts hnil).mp ((packs_iff_le_count hprompt).mpr le_rfl)
  · intro k hk
    exact (packs_iff_le_count hprompt).mp ((packs_words_iff hts hnil).mpr hk)

/-- One word cannot end within itself. -/
theorem noneEndsWithin_singleton (t : Text) : noneEndsWithin [t] = true := by
  simp [noneEndsWithin]

end Pattern
end ThreatScan
