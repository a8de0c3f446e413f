/-
# A text with other text around it

A search for a pattern with gaps may count less in a text than in a part of it: one occurrence that
begins in front of the part can cover many in there.  Words cannot do that.  If whatever reaches
over the beginning or the end of the part is a word, the count is no lower than that of the part
(`count_le_surrounded`).  Nothing at all reaches over them if they are between two lines
(`count_le_of_onlyLines`).

It takes two things of the words.  None of them holds something that the pattern takes, so the piece
of a word that stands within the part, be it at the beginning or at the end, counts for nothing by
itself.  And to cut such a piece off the beginning costs one occurrence at most, the one that begins
in the piece: what the search finds behind it is not to depend on where it starts.  A pattern of
which this holds is sturdy.
-/
import ThreatScan.Proofs.Pattern.Alternatives
import ThreatScan.Proofs.Pattern.Margin
import ThreatScan.Proofs.Pattern.Packing
import ThreatScan.Proofs.Pattern.Respaced

namespace ThreatScan

/-! ## 1. Borders -/

namespace Occurrence

/-- The piece of text that is taken. -/
def piece (o : Occurrence) : Text := o.start.rest.take (o.stop - o.start.offset)

/-- The occurrence reaches over an offset. -/
def Crosses (o : Occurrence) (n : ℕ) : Prop := o.start.offset < n ∧ n < o.stop

instance (o : Occurrence) (n : ℕ) : Decidable (o.Crosses n) := inferInstanceAs (Decidable (_ ∧ _))

end Occurrence

namespace Pattern

open Text (newline)

/-- What reaches over the beginning or the end of `b` is a word. -/
def CutsOnlyWords (p : Pattern) (a b s : Text) : Prop :=
  ∀ o ∈ p.occurrences (a ++ (b ++ s)),
    o.Crosses a.length ∨ o.Crosses (a.length + b.length) → p.TakesWord o.piece

instance (p : Pattern) (a b s : Text) : Decidable (p.CutsOnlyWords a b s) :=
  inferInstanceAs (Decidable (∀ o ∈ _, _ → _))

/-- Nothing but whole lines stands in front, and behind. -/
def OnlyLines (a s : Text) : Prop :=
  (a = [] ∨ ∃ lines, a = lines ++ [newline]) ∧ (s = [] ∨ ∃ lines, s = newline :: lines)

variable {p : Pattern} {a b c d s t w r y : Text} {x : CodePoint}

/-! ## 2. The steps of a search -/

theorem commitsStop_of_isPlain (h : p.isPlain = true) : p.CommitsStop s := by
  refine commitsStop_of_parts (P := fun p => p.isPlain = true) ?_ ?_ ?_ h
  · exact fun p q h => Bool.and_eq_true_iff.mp h
  · exact fun p q h => Bool.and_eq_true_iff.mp h
  · exact fun p h => by cases h

section Steps

variable (hplain : p.isPlain = true) (hlength : 0 < p.leastLength)
include hplain

/-- A place where nothing begins is passed. -/
theorem scan_of_none (h : p.reach? (x :: t) = none) (offset : ℕ) :
    p.scan offset (x :: t) 0 = p.scan (offset + 1) t 0 := by
  have hshift : p.ends ⟨offset, x :: t⟩ = (p.ends ⟨0, x :: t⟩).map (Cursor.shift offset) :=
    ends_shift (isFloating_of_isPlain hplain) offset ⟨0, x :: t⟩
  have hends : p.ends ⟨0, x :: t⟩ = [] := by
    rwa [reach?, Option.map_eq_none_iff, List.head?_eq_none_iff] at h
  rw [hends, List.map_nil] at hshift
  rw [scan, startingAt_eq_nil_iff.mpr hshift]

omit hplain in
theorem scan_skip (w r : Text) (offset : ℕ) :
    p.scan offset (w ++ r) w.length = p.scan (offset + w.length) r 0 := by
  induction w generalizing offset with
  | nil => cases r <;> rfl
  | cons x w ih =>
    rw [List.cons_append, List.length_cons, scan, ih, Nat.add_assoc, Nat.add_comm 1]

/-- In a longer text nothing begins that does not begin in the text, unless it ends beyond. -/
theorem reach?_of_append_none (h : p.reach? (t ++ s) = none) : p.reach? t = none := by
  have hcommit : p.CommitsStop s := commitsStop_of_isPlain hplain
  have hends := ends_extend_filter hcommit ⟨0, t⟩
  rw [reach?, Option.map_eq_none_iff, List.head?_eq_none_iff] at h ⊢
  rw [Cursor.extend, h] at hends
  exact List.map_eq_nil_iff.mp hends.symm

theorem reach?_of_append_some (h : p.reach? (w ++ r ++ s) = some w.length) :
    p.reach? (w ++ r) = some w.length := by
  have hcommit : p.CommitsStop s := commitsStop_of_isPlain hplain
  have hends := ends_extend_filter hcommit ⟨0, w ++ r⟩
  rw [reach?] at h ⊢
  obtain ⟨d, hd, hoffset⟩ := Option.map_eq_some_iff.mp h
  obtain ⟨ds, hds⟩ := List.head?_eq_some_iff.mp hd
  have hinside : outside s d = true := by
    obtain ⟨v, hv, -⟩ := accepts_of_mem_ends (List.mem_of_mem_head? hd)
    have hrest : w ++ r ++ s = v ++ d.rest := hv.rest
    have hlength : v.length = w.length := by
      have hoffset' : d.offset = 0 + v.length := hv.offset
      omega
    have hall := congrArg List.length hrest
    simp only [List.length_append] at hall
    exact decide_eq_true (by omega)
  rw [Cursor.extend, hds, List.filter_cons_of_pos hinside] at hends
  have hhead := congrArg List.head? hends
  rw [List.head?_cons, List.head?_map] at hhead
  obtain ⟨e, he, rfl⟩ := Option.map_eq_some_iff.mp hhead.symm
  exact Option.map_eq_some_iff.mpr ⟨e, he, hoffset⟩

include hlength

/-- What begins at a place is taken, and the search goes on behind it. -/
theorem scan_of_some (h : p.reach? (w ++ r) = some w.length) (hw : w ≠ []) (offset : ℕ) :
    p.scan offset (w ++ r) 0 =
      ⟨⟨offset, w ++ r⟩, offset + w.length⟩ :: p.scan (offset + w.length) r 0 := by
  cases w with
  | nil => exact absurd rfl hw
  | cons x w =>
    have hends : p.ends ⟨offset, x :: (w ++ r)⟩ = _ :=
      ends_shift (isFloating_of_isPlain hplain) offset ⟨0, x :: (w ++ r)⟩
    obtain ⟨d, hd, hoffset⟩ := Option.map_eq_some_iff.mp h
    have hd' : (p.ends ⟨0, x :: (w ++ r)⟩).head? = some d := hd
    have hskip : offset + (x :: w).length - offset - 1 = w.length := by simp
    rw [List.cons_append, scan, startingAt_eq hlength, hends, List.head?_map, hd']
    simp only [Option.map_some, Option.toList_some, List.getLast?_nil, Option.getD_none,
      Cursor.shift_offset, hoffset, hskip, scan_skip]
    rw [List.length_cons, Nat.add_assoc, Nat.add_comm 1]
    rfl

omit hplain in
/-- At a place a search takes what begins there, or passes on. -/
theorem exists_step (t : Text) :
    p.reach? t = none ∨
      ∃ w r, t = w ++ r ∧ w ≠ [] ∧ p.Accepts w ∧ p.reach? (w ++ r) = some w.length := by
  cases h : p.reach? t with
  | none => exact .inl rfl
  | some n =>
    obtain ⟨w, r, rfl, rfl, haccepts⟩ := exists_of_reach? h
    have hpos := hlength.trans_le (leastLength_le haccepts)
    exact .inr ⟨w, r, rfl, List.length_pos_iff.mp hpos, haccepts, h⟩

/-- The count of a text is that of a search from any offset. -/
theorem length_scan (t : Text) (offset : ℕ) : (p.scan offset t 0).length = p.count t := by
  have hfloating := isFloating_of_isPlain hplain
  rw [length_scan_eq_tally hlength hfloating, count_eq_tally hlength hfloating]

theorem count_of_none (h : p.reach? (x :: t) = none) : p.count (x :: t) = p.count t := by
  rw [← length_scan hplain hlength (x :: t) 0, scan_of_none hplain h, length_scan hplain hlength]

theorem count_of_some (h : p.reach? (w ++ r) = some w.length) (hw : w ≠ []) :
    p.count (w ++ r) = p.count r + 1 := by
  rw [← length_scan hplain hlength (w ++ r) 0, scan_of_some hplain hlength h hw, List.length_cons,
    length_scan hplain hlength]

end Steps

/-- A piece at the beginning ends within the first part, or beyond. -/
theorem within_or_beyond (h : t ++ s = w ++ r) :
    (∃ c, t = w ++ c ∧ r = c ++ s) ∨ ∃ c, c ≠ [] ∧ w = t ++ c ∧ s = c ++ r := by
  rcases List.append_eq_append_iff.mp h with ⟨c, rfl, rfl⟩ | hwithin
  · rcases eq_or_ne c [] with rfl | hc
    · exact .inl ⟨[], by simp⟩
    · exact .inr ⟨c, hc, rfl, rfl⟩
  · exact .inl hwithin

/-- What is taken at the beginning of a text is the piece that was read. -/
theorem piece_eq (w r : Text) (offset : ℕ) :
    (⟨⟨offset, w ++ r⟩, offset + w.length⟩ : Occurrence).piece = w := by
  simp [Occurrence.piece]

/-! ## 3. Sturdy patterns -/

/-- No word holds something else that the pattern takes, and a piece of one at the beginning of a
text makes a difference of one at most. -/
structure IsSturdy (p : Pattern) : Prop where
  plain : p.isPlain = true
  length : 0 < p.leastLength
  within : ∀ a b c, p.TakesWord (a ++ (b ++ c)) → p.Accepts b → a = [] ∧ c = []
  tail : ∀ a d y, p.TakesWord (a ++ d) → a ≠ [] → p.count (d ++ y) ≤ p.count y + 1

namespace IsSturdy

variable (hp : p.IsSturdy)
include hp

/-- Nothing is found in a piece of a word. -/
theorem count_eq_zero (h : p.TakesWord (a ++ (b ++ c))) (hne : a ≠ [] ∨ c ≠ []) :
    p.count b = 0 := by
  refine Nat.eq_zero_of_not_pos ?_
  intro hpos
  obtain ⟨w, hw, b₁, b₂, rfl⟩ := (count_pos_iff_of_isPlain hp.plain).mp hpos
  obtain ⟨ha, hc⟩ := hp.within (a ++ b₁) w (b₂ ++ c) (by simpa using h) hw
  rcases hne with hne | hne
  · exact hne (List.append_eq_nil_iff.mp ha).1
  · exact hne (List.append_eq_nil_iff.mp hc).2

/-- **More text at the end** takes nothing away. -/
theorem count_le_append (offset : ℕ)
    (h : ∀ o ∈ p.scan offset (b ++ s) 0, o.Crosses (offset + b.length) → p.TakesWord o.piece) :
    p.count b ≤ p.count (b ++ s) := by
  induction hn : b.length using Nat.strong_induction_on generalizing b offset with
  | _ n ih =>
    cases b with
    | nil =>
      rw [count_nil hp.length (isFloating_of_isPlain hp.plain)]
      exact Nat.zero_le _
    | cons x b =>
      rcases exists_step hp.length (x :: b ++ s) with hnone | ⟨w, r, hsplit, hw, -, hsome⟩
      · rw [List.cons_append] at hnone h ⊢
        rw [scan_of_none hp.plain hnone] at h
        rw [count_of_none hp.plain hp.length hnone,
          count_of_none hp.plain hp.length (reach?_of_append_none hp.plain (s := s) hnone)]
        refine ih b.length (by simp [← hn]) (offset + 1) ?_ rfl
        intro o ho hcrosses
        exact h o ho (by rwa [List.length_cons, Nat.add_comm b.length, ← Nat.add_assoc])
      · rw [hsplit, scan_of_some hp.plain hp.length hsome hw] at h
        obtain ⟨htake, hrest⟩ := List.forall_mem_cons.mp h
        rcases within_or_beyond hsplit with ⟨c, hb, rfl⟩ | ⟨c, hc, rfl, rfl⟩
        · have hsome' : p.reach? (w ++ c) = some w.length :=
            reach?_of_append_some hp.plain (s := s) (by rwa [List.append_assoc])
          rw [hsplit, hb, count_of_some hp.plain hp.length hsome hw,
            count_of_some hp.plain hp.length hsome' hw]
          have hlength := congrArg List.length hb
          have hpos := List.length_pos_iff.mpr hw
          rw [List.length_append] at hlength
          refine Nat.succ_le_succ (ih c.length (by omega) (offset + w.length) ?_ rfl)
          intro o ho hcrosses
          exact hrest o ho (by rwa [hlength, ← Nat.add_assoc])
        · -- The piece of the word that stands in the text holds nothing.
          have hpos := List.length_pos_iff.mpr hc
          have hword := htake ⟨by simp, by simp only [List.length_append]; omega⟩
          rw [piece_eq] at hword
          rw [hp.count_eq_zero (a := []) hword (.inr hc)]
          exact Nat.zero_le _

/-- **More text on both sides** takes nothing away. -/
theorem count_le_scan (offset : ℕ)
    (h : ∀ o ∈ p.scan offset (a ++ (b ++ s)) 0,
      o.Crosses (offset + a.length) ∨ o.Crosses (offset + a.length + b.length) →
        p.TakesWord o.piece) :
    p.count b ≤ p.count (a ++ (b ++ s)) := by
  induction hn : a.length using Nat.strong_induction_on generalizing a offset with
  | _ n ih =>
    cases a with
    | nil => exact hp.count_le_append offset fun o ho hcrosses => h o ho (.inr hcrosses)
    | cons x a =>
      rcases exists_step hp.length (x :: a ++ (b ++ s)) with hnone | ⟨w, r, hsplit, hw, -, hsome⟩
      · rw [List.cons_append] at hnone h ⊢
        rw [scan_of_none hp.plain hnone] at h
        rw [count_of_none hp.plain hp.length hnone]
        refine ih a.length (by simp [← hn]) (offset + 1) ?_ rfl
        intro o ho hcrosses
        exact h o ho (by rwa [List.length_cons, Nat.add_comm a.length, ← Nat.add_assoc])
      · rw [hsplit, scan_of_some hp.plain hp.length hsome hw] at h
        obtain ⟨htake, hrest⟩ := List.forall_mem_cons.mp h
        rw [hsplit, count_of_some hp.plain hp.length hsome hw]
        rcases within_or_beyond hsplit with ⟨a', ha, rfl⟩ | ⟨e, he, rfl, hbs⟩
        · have hlength := congrArg List.length ha
          have hpos := List.length_pos_iff.mpr hw
          rw [List.length_append] at hlength
          refine Nat.le_succ_of_le (ih a'.length (by omega) (offset + w.length) ?_ rfl)
          intro o ho hcrosses
          exact hrest o ho (by rwa [hlength, ← Nat.add_assoc])
        · have hpos := List.length_pos_iff.mpr he
          have hword := htake (.inl ⟨by simp, by simp only [List.length_append]; omega⟩)
          rw [piece_eq] at hword
          rcases within_or_beyond hbs with ⟨y, rfl, rfl⟩ | ⟨c, -, rfl, -⟩
          · -- What is left behind the word is counted, and the word is one occurrence more.
            refine (hp.tail _ e y hword (List.cons_ne_nil x a)).trans (Nat.succ_le_succ ?_)
            refine hp.count_le_append (offset + (x :: a ++ e).length) ?_
            intro o ho hcrosses
            refine hrest o ho (.inr ?_)
            rw [List.length_append, ← Nat.add_assoc] at hcrosses ⊢
            exact hcrosses
          · rw [hp.count_eq_zero hword (.inl (List.cons_ne_nil x a))]
            exact Nat.zero_le _

/-- **Text around a text does not lower the count** if only words reach over the borders. -/
theorem count_le_surrounded (h : p.CutsOnlyWords a b s) :
    p.count b ≤ p.count (a ++ (b ++ s)) := by
  rw [CutsOnlyWords, occurrences_eq_scan] at h
  refine hp.count_le_scan 0 ?_
  simpa using h

end IsSturdy

/-- **Whole lines around a text** do not lower the count of what no line break stands in. -/
theorem count_le_of_onlyLines (hplain : p.isPlain = true) (hlength : 0 < p.leastLength)
    (hnewline : p.excludes newline = true) (h : OnlyLines a s) :
    p.count b ≤ p.count (a ++ (b ++ s)) := by
  have hfloating := isFloating_of_isPlain hplain
  have hbehind : p.count b ≤ p.count (b ++ s) := by
    rcases h.2 with rfl | ⟨lines, rfl⟩
    · rw [List.append_nil]
    · rw [count_append_newline hlength hfloating hnewline]
      exact Nat.le_add_right _ _
  rcases h.1 with rfl | ⟨lines, rfl⟩
  · exact hbehind
  · rw [List.append_assoc, List.singleton_append,
      count_append_newline hlength hfloating hnewline]
    exact hbehind.trans (Nat.le_add_left _ _)

end Pattern
end ThreatScan
