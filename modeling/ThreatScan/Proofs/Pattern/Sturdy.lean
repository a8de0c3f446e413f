/-
# Which patterns are sturdy

A pattern whose words hold nothing else is sturdy in two cases.

If no gap can begin within a word, a search behind a piece of a word soon finds what it finds
without the piece: what begins in the piece is a word, of which a piece is left in its turn, and the
two searches keep within one occurrence of each other (`count_tail_of_words`).

If no word can begin within a word, but one kind of gap can, the other search has covered as much as
possible of a line and so ends where every occurrence that begins in there must end
(`count_le_of_longest`): a gap begins with the same word and would have been covered up to its end.
-/
import ThreatScan.Proofs.Pattern.Surroundings

namespace ThreatScan
namespace Pattern

variable {p : Pattern} {a b c d m r t w y z : Text} {us vs : List CharClass}

/-! ## 1. Pieces of words -/

/-- No word holds what another alternative ends with. -/
def wordsHoldNothing (p : Pattern) : Bool :=
  p.wordsOf.all fun ks => p.alternatives.all fun q =>
    decide (q.word? = some ks) || !hasWithin ks q.back

/-- No gap begins within a word. -/
def gapsBeginOutside (p : Pattern) : Bool :=
  p.wordsOf.all fun ks => p.alternatives.all fun q =>
    q.word?.isSome || !canBeginWithin ks q.front

/-- No word begins within a word. -/
def wordsBeginOutside (p : Pattern) : Bool :=
  p.wordsOf.all fun ks => p.wordsOf.all fun ks' => !canBeginWithin ks ks'

/-- The text is a piece of a word, up to its end. -/
def IsTail (p : Pattern) (d : Text) : Prop := ∃ a, a ≠ [] ∧ p.TakesWord (a ++ d)

theorem eq_nil_of_wordsHoldNothing (h : p.wordsHoldNothing = true)
    (hword : p.TakesWord (a ++ (b ++ c))) (hb : p.Accepts b) : a = [] ∧ c = [] := by
  obtain ⟨ks, hks, hfits⟩ := hword
  obtain ⟨q, hq, hb⟩ := accepts_iff_alternatives.mp hb
  have hcheck := List.all_eq_true.mp (List.all_eq_true.mp h ks hks) q hq
  rw [Bool.or_eq_true, decide_eq_true_eq, Bool.not_eq_true'] at hcheck
  rcases hcheck with hsame | hwithin
  · have hlength := hfits.length_eq
    have hlength' : ks.length = b.length := by
      cases q <;> cases hsame
      exact Fits.length_eq hb
    simp only [List.length_append] at hlength
    exact ⟨List.length_eq_zero_iff.mp (by omega), List.length_eq_zero_iff.mp (by omega)⟩
  · obtain ⟨u, v, rfl, hv⟩ := exists_of_back hb
    rw [List.append_assoc, ← List.append_assoc] at hfits
    rw [hasWithin_of_fits hfits hv] at hwithin
    cases hwithin

theorem isTail_of_cons {x : CodePoint} (h : p.IsTail (x :: d)) : p.IsTail d := by
  obtain ⟨a, -, hword⟩ := h
  exact ⟨a ++ [x], by simp, by simpa using hword⟩

section Pieces

variable (hplain : p.isPlain = true) (hlength : 0 < p.leastLength)
  (hholds : p.wordsHoldNothing = true)
include hplain hlength hholds

/-- **A search that starts with a piece of a word** passes it, or takes something that begins in the
piece and ends beyond. -/
theorem exists_of_isTail (hd : p.IsTail d) (y : Text) :
    p.count (d ++ y) = p.count y ∨
      ∃ z m r, p.IsTail z ∧ z ≠ [] ∧ m ≠ [] ∧ y = m ++ r ∧ p.Accepts (z ++ m) ∧
        p.reach? (z ++ m ++ r) = some (z ++ m).length ∧ p.count (d ++ y) = p.count r + 1 := by
  induction d with
  | nil => exact .inl rfl
  | cons x d ih =>
    rcases exists_step hlength (x :: d ++ y) with hnone | ⟨w, r, hsplit, hw, haccepts, hsome⟩
    · rw [List.cons_append] at hnone ⊢
      rw [count_of_none hplain hlength hnone]
      exact ih (isTail_of_cons hd)
    · rcases within_or_beyond hsplit with ⟨c, hc, -⟩ | ⟨m, hm, rfl, rfl⟩
      · obtain ⟨a, ha, hword⟩ := hd
        rw [hc] at hword
        exact absurd (eq_nil_of_wordsHoldNothing hholds hword haccepts).1 ha
      · rw [hsplit, count_of_some hplain hlength hsome hw]
        exact .inr ⟨x :: d, m, r, hd, List.cons_ne_nil x d, hm, rfl, haccepts, hsome, rfl⟩

/-! ## 2. No gap in a word -/

/-- **Words alone keep two searches within one occurrence of each other.** -/
theorem count_tail_of_words (hgaps : p.gapsBeginOutside = true) (hd : p.IsTail d) (y : Text) :
    p.count (d ++ y) ≤ p.count y + 1 ∧ p.count y ≤ p.count (d ++ y) := by
  induction hn : y.length using Nat.strong_induction_on generalizing d y with
  | _ n ih =>
    rcases exists_of_isTail hplain hlength hholds hd y with
      heq | ⟨z, m, r, ⟨a, ha, ks, hks, hfits⟩, hz, hm, rfl, haccepts, -, heq⟩
    · omega
    · have hword : p.TakesWord (z ++ m) := by
        by_contra hgap
        obtain ⟨q, hq, hnone, hw⟩ := exists_gap_of_accepts haccepts hgap
        have hcheck := List.all_eq_true.mp (List.all_eq_true.mp hgaps ks hks) q hq
        obtain ⟨u, v, hu, hfront⟩ := exists_of_front hw
        have hbegins := canBeginWithin_of_fits hfits ha hz hfront (List.prefix_append z m)
          (hu ▸ List.prefix_append u v)
        rw [hnone, hbegins] at hcheck
        cases hcheck
      have hpos := List.length_pos_iff.mpr hm
      have hrest := ih r.length (by rw [← hn, List.length_append]; omega) ⟨z, hz, hword⟩ r rfl
      omega

theorem isSturdy_of_words (hgaps : p.gapsBeginOutside = true) : p.IsSturdy where
  plain := hplain
  length := hlength
  within _ _ _ hword hb := eq_nil_of_wordsHoldNothing hholds hword hb
  tail a _ y hword ha :=
    (count_tail_of_words hplain hlength hholds hgaps ⟨a, ha, hword⟩ y).1

end Pieces

/-! ## 3. One kind of gap -/

/-- Two words with any text of the same line between them. -/
def stretch (us vs : List CharClass) : Pattern := sequence [each us, gap, each vs]

/-- The alternatives are words and one kind of gap.  No word begins within another one or at the end
of the gap, and the gap begins nowhere within its own words. -/
structure HasOneGap (p : Pattern) (us vs : List CharClass) : Prop where
  gap : ∀ q ∈ p.alternatives, q.word? = none → q = stretch us vs
  words : p.wordsBeginOutside = true
  inLine : ∀ k ∈ us, k.has Text.newline = false
  first : canBeginWithin us us = false
  last : canBeginWithin vs us = false
  wordsLast : ∀ ks ∈ p.wordsOf, canBeginWithin vs ks = false

theorem accepts_stretch : (stretch us vs).Accepts w ↔
    ∃ a b c, w = a ++ (b ++ c) ∧ Fits us a ∧ (∀ x ∈ b, CharClass.inLine.has x = true) ∧
      Fits vs c := by
  constructor
  · rintro ⟨a, _, rfl, ha, b, c, rfl, ⟨-, hb⟩, hc⟩
    exact ⟨a, b, c, rfl, ha, hb, hc⟩
  · rintro ⟨a, b, c, rfl, ha, hb, hc⟩
    exact ⟨a, b ++ c, rfl, ha, b, c, rfl, ⟨Nat.zero_le _, hb⟩, hc⟩

theorem isPlain_stretch : (stretch us vs).isPlain = true := rfl

/-- The places of a repetition lie one behind the other. -/
theorem pairwise_places (k : CharClass) (least offset : ℕ) (t : Text) :
    (places k least offset t).Pairwise fun d e => d.offset < e.offset := by
  induction t generalizing least offset with
  | nil =>
    rw [places]
    split <;> simp
  | cons x t ih =>
    rw [places]
    refine List.pairwise_append.mpr ⟨?_, ?_, ?_⟩
    · split <;> simp
    · split
      · exact ih (least - 1) (offset + 1)
      · exact .nil
    · intro d hd e he
      split at hd
      case isFalse => cases hd
      case isTrue =>
        split at he
        case isFalse => cases he
        case isTrue =>
          obtain rfl := List.mem_singleton.mp hd
          obtain ⟨n, -, -, rfl⟩ := mem_places.mp he
          simp only [Cursor.advance]
          omega

/-- Where only one kind of entry has results, the first result is its first one. -/
theorem head?_of_flatMap {α β : Type} {xs : List α} {f : α → List β} {ys : List β} {y : β}
    (h : ∀ x ∈ xs, f x = [] ∨ f x = ys) (hhead : (xs.flatMap f).head? = some y) :
    ys.head? = some y := by
  induction xs with
  | nil => cases hhead
  | cons x xs ih =>
    obtain ⟨hx, hxs⟩ := List.forall_mem_cons.mp h
    rw [List.flatMap_cons] at hhead
    rcases hx with hx | hx
    · rw [hx, List.nil_append] at hhead
      exact ih hxs hhead
    · cases ys with
      | nil =>
        rw [hx, List.nil_append] at hhead
        exact ih hxs hhead
      | cons z zs =>
        rw [hx] at hhead
        exact hhead

theorem offset_of_mem_ends_each {ks : List CharClass} {d e : Cursor} (h : e ∈ (each ks).ends d) :
    e.offset = d.offset + ks.length := by
  obtain ⟨-, rfl⟩ := eq_advance_of_after? (Option.mem_toList.mp h)
  rfl

theorem pairwise_ends_stretch (t : Text) :
    ((stretch us vs).ends ⟨0, t⟩).Pairwise fun d e => e.offset ≤ d.offset := by
  have hlast (d : Cursor) : ((each vs).ends d).Pairwise fun d e => e.offset ≤ d.offset := by
    rw [ends]
    cases after? vs d.offset d.rest <;> simp
  have hgap (d : Cursor) :
      ((gap.ends d).flatMap (each vs).ends).Pairwise fun d e => e.offset ≤ d.offset := by
    have hplaces : (gap.ends d).Pairwise fun d e => e.offset < d.offset :=
      List.pairwise_reverse.mpr (pairwise_places _ _ _ _)
    refine List.pairwise_flatMap.mpr ⟨fun d _ => hlast d, hplaces.imp ?_⟩
    intro d e hlt d' hd' e' he'
    rw [offset_of_mem_ends_each hd', offset_of_mem_ends_each he']
    omega
  show (((each us).ends ⟨0, t⟩).flatMap fun d => (gap.ends d).flatMap (each vs).ends).Pairwise _
  rw [ends]
  cases after? us 0 t with
  | none => exact .nil
  | some d => simpa using hgap d

/-- **Of what a gap takes, the longest comes first.** -/
theorem length_le_of_head? {e : Cursor} (h : ((stretch us vs).ends ⟨0, t⟩).head? = some e)
    (ht : t = w ++ r) (hw : (stretch us vs).Accepts w) : w.length ≤ e.offset := by
  have hsorted : ((stretch us vs).ends ⟨0, t⟩).Pairwise fun d e => e.offset ≤ d.offset :=
    pairwise_ends_stretch t
  have hmem : (⟨w.length, r⟩ : Cursor) ∈ (stretch us vs).ends ⟨0, t⟩ :=
    mem_ends_of_accepts isPlain_stretch ⟨ht, (Nat.zero_add _).symm⟩ hw
  obtain ⟨es, hes⟩ := List.head?_eq_some_iff.mp h
  rw [hes] at hsorted hmem
  rcases List.mem_cons.mp hmem with rfl | hmem
  · exact le_rfl
  · exact List.rel_of_pairwise_cons hsorted hmem

namespace HasOneGap

variable (hgap : p.HasOneGap us vs)
include hgap

/-- No word holds the end of what a gap takes. -/
theorem not_takesWord_of_beyond (hmem : stretch us vs ∈ p.alternatives)
    (hholds : p.wordsHoldNothing = true) (hw : (stretch us vs).Accepts (a ++ r)) (hr : r ≠ []) :
    ¬ p.TakesWord (r ++ c) := by
  rintro ⟨ks, hks, hfits⟩
  obtain ⟨u, g, v, hsplit, -, -, hv⟩ := accepts_stretch.mp hw
  have hsuffix : v <:+ a ++ r := ⟨u ++ g, by rw [hsplit, List.append_assoc]⟩
  have hholdsLast (b : Text) (hb : r = b ++ v) : False := by
    have hcheck := List.all_eq_true.mp (List.all_eq_true.mp hholds ks hks) _ hmem
    rw [hb, List.append_assoc] at hfits
    have hwithin : hasWithin ks (stretch us vs).back = true := hasWithin_of_fits hfits hv
    rw [hwithin] at hcheck
    cases hcheck
  rcases List.suffix_or_suffix_of_suffix (List.suffix_append a r) hsuffix with ⟨v', hv'⟩ | ⟨b, hb⟩
  · rcases eq_or_ne v' [] with rfl | hne
    · exact hholdsLast [] hv'
    · have hbegins := canBeginWithin_of_fits (hv' ▸ hv) hne hr hfits (List.prefix_append r c)
        List.prefix_rfl
      rw [hgap.wordsLast ks hks] at hbegins
      cases hbegins
  · exact hholdsLast b hb.symm

omit hgap in
theorem has_inLine_of_fits (hus : ∀ k ∈ us, k.has Text.newline = false) (hw : Fits us w) :
    ∀ x ∈ w, CharClass.inLine.has x = true := by
  intro x hx
  obtain ⟨i, hi, rfl⟩ := List.mem_iff_getElem.mp hx
  have hi' : i < us.length := hw.length_eq ▸ hi
  have hhas : us[i].has w[i] = true := List.Forall₂.get hw hi' hi
  have hne : w[i] ≠ 10 := by
    intro heq
    rw [heq] at hhas
    exact Bool.false_ne_true ((hus _ (List.getElem_mem hi')).symm.trans hhas)
  simpa [CharClass.inLine, CharClass.has] using hne

/-- **A gap that begins within the longest one ends there.** -/
theorem eq_nil_of_longest (hw : (stretch us vs).Accepts (a ++ r))
    (hlongest : ∀ w s, (a ++ r) ++ (c ++ t) = w ++ s → (stretch us vs).Accepts w →
      w.length ≤ (a ++ r).length)
    (ha : a ≠ []) (hr : r ≠ []) (hbegins : (stretch us vs).Accepts (r ++ c)) : c = [] := by
  obtain ⟨u, g, v, hsplit, hu, hg, hv⟩ := accepts_stretch.mp hw
  obtain ⟨u', g', v', hsplit', hu', hg', hv'⟩ := accepts_stretch.mp hbegins
  have hstart : u' <+: r ++ c := hsplit' ▸ List.prefix_append _ _
  obtain ⟨b, rfl⟩ : v <:+ r := by
    have hsuffix : v <:+ a ++ r := ⟨u ++ g, by rw [hsplit, List.append_assoc]⟩
    rcases List.suffix_or_suffix_of_suffix (List.suffix_append a r) hsuffix with ⟨e, rfl⟩ | h
    · rcases eq_or_ne e [] with rfl | he
      · exact List.suffix_refl r
      · have hbegins := canBeginWithin_of_fits hv he hr hu' (List.prefix_append r c) hstart
        rw [hgap.last] at hbegins
        cases hbegins
    · exact h
  -- The gap begins in the one that was taken, and not within its first word.
  obtain ⟨g₀, rfl, rfl⟩ : ∃ g₀, a = u ++ g₀ ∧ g = g₀ ++ b := by
    have hfront : a ++ b = u ++ g := by
      rw [← List.append_assoc, ← List.append_assoc] at hsplit
      exact List.append_cancel_right hsplit
    rcases List.append_eq_append_iff.mp hfront with ⟨u₁, rfl, rfl⟩ | h
    · rcases eq_or_ne u₁ [] with rfl | hne
      · exact ⟨[], by simp⟩
      · have hbegins := canBeginWithin_of_fits hu ha hne hu'
          (t := u₁ ++ g ++ v ++ c) (by simp) hstart
        rw [hgap.first] at hbegins
        cases hbegins
    · exact h
  -- The first word of the one that was taken and the last word of the other one leave a longer gap.
  have hlonger : (stretch us vs).Accepts (u ++ ((g₀ ++ (u' ++ g')) ++ v')) := by
    refine accepts_stretch.mpr ⟨u, _, v', rfl, hu, ?_, hv'⟩
    have hfirst := has_inLine_of_fits hgap.inLine hu'
    have hgap₀ := (List.forall_mem_append.mp hg).1
    exact List.forall_mem_append.mpr ⟨hgap₀, List.forall_mem_append.mpr ⟨hfirst, hg'⟩⟩
  have heq : u ++ ((g₀ ++ (u' ++ g')) ++ v') = (u ++ g₀) ++ ((b ++ v) ++ c) := by
    rw [hsplit']
    simp
  have hle := hlongest _ t (by rw [heq]; simp) hlonger
  rw [heq] at hle
  simp only [List.length_append] at hle
  exact List.length_eq_zero_iff.mp (by omega)

section Search

variable (hplain : p.isPlain = true) (hlength : 0 < p.leastLength)
  (hholds : p.wordsHoldNothing = true)
include hplain hlength hholds

/-- **A search that starts within the longest gap** counts no less than one that starts behind. -/
theorem count_le_of_longest (hmem : stretch us vs ∈ p.alternatives)
    (hw : (stretch us vs).Accepts (a ++ r)) (ha : a ≠ [])
    (hlongest : ∀ w s, (a ++ r) ++ y = w ++ s → (stretch us vs).Accepts w →
      w.length ≤ (a ++ r).length) :
    p.count y ≤ p.count (r ++ y) := by
  induction hn : r.length using Nat.strong_induction_on generalizing a r with
  | _ n ih =>
    cases r with
    | nil => exact le_rfl
    | cons x r =>
      rcases exists_step hlength (x :: r ++ y) with hnone | ⟨w, s, hsplit, hne, haccepts, hsome⟩
      · rw [List.cons_append] at hnone ⊢
        rw [count_of_none hplain hlength hnone]
        have hshift : a ++ x :: r = a ++ [x] ++ r := by simp
        rw [hshift] at hw hlongest
        exact ih r.length (by simp [← hn]) hw (by simp) hlongest rfl
      · rw [hsplit, count_of_some hplain hlength hsome hne]
        obtain ⟨r', hr', rfl⟩ : ∃ r', x :: r = w ++ r' ∧ s = r' ++ y := by
          refine (within_or_beyond hsplit).resolve_right ?_
          rintro ⟨c, hc, rfl, rfl⟩
          have hnot := hgap.not_takesWord_of_beyond hmem hholds hw (List.cons_ne_nil x r) (c := c)
          obtain ⟨q, hq, hnone, hbegins⟩ := exists_gap_of_accepts haccepts hnot
          rw [hgap.gap q hq hnone] at hbegins
          exact hc (hgap.eq_nil_of_longest hw hlongest ha (List.cons_ne_nil x r) hbegins)
        have hshift : a ++ x :: r = a ++ w ++ r' := by rw [hr', List.append_assoc]
        have hless := congrArg List.length hr'
        have hpos := List.length_pos_iff.mpr hne
        rw [List.length_append] at hless
        rw [hshift] at hw hlongest
        exact Nat.le_succ_of_le
          (ih r'.length (by omega) hw (by simp [ha]) hlongest rfl)

omit hplain hlength hholds in
/-- What begins in a piece of a word is the longest gap. -/
theorem longest_of_isTail (hz : p.IsTail z) (hne : z ≠ []) (haccepts : p.Accepts (z ++ m))
    (hsome : p.reach? (z ++ m ++ r) = some (z ++ m).length) :
    stretch us vs ∈ p.alternatives ∧ (stretch us vs).Accepts (z ++ m) ∧
      ∀ w s, (z ++ m) ++ r = w ++ s → (stretch us vs).Accepts w → w.length ≤ (z ++ m).length := by
  obtain ⟨a, ha, ks, hks, hfits⟩ := hz
  have hstart : z <+: z ++ m ++ r := List.append_assoc z m r ▸ List.prefix_append z (m ++ r)
  have hnone {u : Text} (hu : u <+: z ++ m ++ r) : ¬ p.TakesWord u := by
    rintro ⟨ks', hks', hfits'⟩
    have hbegins := canBeginWithin_of_fits hfits ha hne hfits' hstart hu
    have hcheck := List.all_eq_true.mp (List.all_eq_true.mp hgap.words ks hks) ks' hks'
    rw [hbegins] at hcheck
    cases hcheck
  obtain ⟨q, hq, hword, hw⟩ := exists_gap_of_accepts haccepts (hnone (List.prefix_append _ r))
  obtain rfl := hgap.gap q hq hword
  refine ⟨hq, hw, ?_⟩
  intro w s hsplit hlonger
  obtain ⟨d, hd, hoffset⟩ := Option.map_eq_some_iff.mp hsome
  have hhead : ((stretch us vs).ends ⟨0, z ++ m ++ r⟩).head? = some d := by
    rw [ends_eq_flatMap_alternatives] at hd
    refine head?_of_flatMap ?_ hd
    intro q hq
    cases hq' : q.word? with
    | none => exact .inr (by rw [hgap.gap q hq hq'])
    | some ks' =>
      refine .inl (List.eq_nil_iff_forall_not_mem.mpr ?_)
      intro e he
      obtain ⟨u, hu, hfits'⟩ := accepts_of_mem_ends he
      refine hnone ⟨e.rest, hu.rest.symm⟩ ⟨ks', ?_, ?_⟩
      · exact List.mem_filterMap.mpr ⟨q, hq, hq'⟩
      · cases q <;> cases hq'
        exact hfits'
  rw [← hoffset]
  exact length_le_of_head? hhead hsplit hlonger

theorem isSturdy_of_gap : p.IsSturdy where
  plain := hplain
  length := hlength
  within _ _ _ hword hb := eq_nil_of_wordsHoldNothing hholds hword hb
  tail a d y hword ha := by
    rcases exists_of_isTail hplain hlength hholds ⟨a, ha, hword⟩ y with
      heq | ⟨z, m, r, hz, hne, -, rfl, haccepts, hsome, heq⟩
    · omega
    · obtain ⟨hmem, hw, hlongest⟩ :=
        hgap.longest_of_isTail hz hne haccepts hsome
      have hle := hgap.count_le_of_longest hplain hlength hholds hmem hw hne hlongest
      omega

end Search

end HasOneGap

end Pattern
end ThreatScan
