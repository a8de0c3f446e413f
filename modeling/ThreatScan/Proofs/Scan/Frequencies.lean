/-
# The entropy sees frequencies only

`profile` is filled while the text is read: the entry of a character goes up by one where it
stands, and a new character gets an entry at the end.  `frequencies` reads the same table off the
whole text, and the two are equal (`profile_eq_frequencies`), because one more character changes
both in the same way (`bump_frequencies`).  So the table has one entry for each character, in the
order of first appearance, with its number of occurrences (`isProfile_profile`).

A renaming that keeps distinct characters distinct renames the entries and leaves their order and
their counts alone (`profile_map`).  The order matters: the terms of the entropy are rounded as
they are added up, so the same counts in another order may give another last bit.  Two texts whose
counts are the same list have the same entropy to the last bit (`ofText_eq_of_counts`); `Binary64`
tells even the two zeros apart.
-/
import ThreatScan.Scan.Entropy
import ThreatScan.Proofs.Text.Basic
import Mathlib.Algebra.Order.BigOperators.Group.List
import Mathlib.Algebra.Order.Group.Nat
import Mathlib.Data.Multiset.Filter

namespace ThreatScan
namespace Entropy

open Text (firstOfEach)

/-! ## 1. One more character -/

/-- The characters of a text in the order of first appearance, each with its number of occurrences
in the whole text. -/
def frequencies (t : Text) : List (CodePoint × ℕ) := (firstOfEach t).map fun c => (c, t.count c)

theorem map_fst_frequencies (t : Text) : (frequencies t).map (·.1) = firstOfEach t := by
  simp [frequencies, Function.comp_def]

theorem map_snd_frequencies (t : Text) :
    (frequencies t).map (·.2) = (firstOfEach t).map fun c => t.count c := by
  simp [frequencies, Function.comp_def]

/-- A character without an entry gets one at the end. -/
theorem bump_of_notMem {c : CodePoint} :
    ∀ {table : List (CodePoint × ℕ)}, c ∉ table.map (·.1) → bump c table = table ++ [(c, 1)]
  | [], _ => rfl
  | (d, n) :: table, h => by
    obtain ⟨hne, hrest⟩ := not_or.mp (mt List.mem_cons.mpr h)
    rw [bump, if_neg hne, bump_of_notMem hrest, List.cons_append]

/-- A character with an entry is counted there, and the other entries stay as they are. -/
theorem bump_of_mem (count : CodePoint → ℕ) {c : CodePoint} :
    ∀ {names : List CodePoint}, names.Nodup → c ∈ names →
      bump c (names.map fun d => (d, count d)) =
        names.map fun d => (d, if c = d then count d + 1 else count d)
  | d :: names, hnodup, hmem => by
    obtain ⟨hd, hnodup⟩ := List.nodup_cons.mp hnodup
    rw [List.map_cons, List.map_cons, bump]
    by_cases hcd : c = d
    case pos =>
      have hothers : names.map (fun e => (e, count e)) =
          names.map fun e => (e, if c = e then count e + 1 else count e) := by
        refine List.map_congr_left fun e he => ?_
        have hne : c ≠ e := by
          rintro rfl
          exact hd (hcd ▸ he)
        rw [if_neg hne]
      rw [if_pos hcd, if_pos hcd, hothers]
    case neg =>
      have hrest : c ∈ names := (List.mem_cons.mp hmem).resolve_left hcd
      rw [if_neg hcd, if_neg hcd, bump_of_mem count hnodup hrest]

/-- **One more character changes the table as it changes the text.** -/
theorem bump_frequencies (t : Text) (c : CodePoint) :
    bump c (frequencies t) = frequencies (t ++ [c]) := by
  have hcount (d : CodePoint) :
      (t ++ [c]).count d = if c = d then t.count d + 1 else t.count d := by
    simp only [List.count_append, List.count_singleton, beq_iff_eq]
    split <;> rfl
  by_cases hc : c ∈ t
  case pos =>
    rw [frequencies, frequencies, Text.firstOfEach_concat_of_mem hc,
      bump_of_mem _ (Text.nodup_firstOfEach t) (Text.mem_firstOfEach.mpr hc)]
    simp only [hcount]
  case neg =>
    have hnew : c ∉ (frequencies t).map (·.1) := by
      rwa [map_fst_frequencies, Text.mem_firstOfEach]
    have hothers : (firstOfEach t).map (fun d => (d, t.count d)) =
        (firstOfEach t).map fun d => (d, (t ++ [c]).count d) := by
      refine List.map_congr_left fun d hd => ?_
      have hne : c ≠ d := fun hcd => hc (hcd ▸ Text.mem_firstOfEach.mp hd)
      rw [hcount, if_neg hne]
    have hlast : (t ++ [c]).count c = 1 := by
      rw [hcount, if_pos rfl, List.count_eq_zero_of_not_mem hc]
    rw [bump_of_notMem hnew, frequencies, frequencies, Text.firstOfEach_concat_of_notMem hc,
      List.map_append, List.map_singleton, hothers, hlast]

/-- **The table that is filled while reading is the one of the whole text.** -/
theorem profile_eq_frequencies (t : Text) : profile t = frequencies t := by
  induction t using List.reverseRecOn with
  | nil => rfl
  | append_singleton t c ih =>
    calc profile (t ++ [c])
        = bump c (profile t) := List.foldl_concat ..
      _ = bump c (frequencies t) := by rw [ih]
      _ = frequencies (t ++ [c]) := bump_frequencies t c

/-! ## 2. The table of a text -/

/-- The counts of the characters add up to the length of the text. -/
theorem sum_profile (t : Text) : ((profile t).map (·.2)).sum = t.length := by
  rw [profile_eq_frequencies, map_snd_frequencies, Text.sum_count_firstOfEach]

theorem le_length_of_mem_profile {t : Text} {n : ℕ} (h : n ∈ (profile t).map (·.2)) :
    n ≤ t.length :=
  sum_profile t ▸ List.le_sum_of_mem h

/-- A table counts the characters of a text, in the order of first appearance. -/
structure IsProfile (t : Text) (table : List (CodePoint × ℕ)) : Prop where
  /-- The characters with an entry are those of the text. -/
  mem_iff (c : CodePoint) : c ∈ table.map (·.1) ↔ c ∈ t
  /-- No character has two entries. -/
  nodup : (table.map (·.1)).Nodup
  /-- Of two entries the first one belongs to the character that appears first. -/
  ordered : (table.map (·.1)).Pairwise fun c d => t.idxOf c < t.idxOf d
  /-- An entry holds the number of occurrences. -/
  count_eq : ∀ e ∈ table, e.2 = t.count e.1
  pos : ∀ n ∈ table.map (·.2), 0 < n
  sum_eq : (table.map (·.2)).sum = t.length

theorem isProfile_profile (t : Text) : IsProfile t (profile t) := by
  have hnames : (profile t).map (·.1) = firstOfEach t := by
    rw [profile_eq_frequencies, map_fst_frequencies]
  exact
    { mem_iff := fun c => by rw [hnames, Text.mem_firstOfEach]
      nodup := hnames ▸ Text.nodup_firstOfEach t
      ordered := hnames ▸ Text.pairwise_idxOf_firstOfEach t
      count_eq := by
        intro e he
        rw [profile_eq_frequencies] at he
        obtain ⟨c, -, rfl⟩ := List.mem_map.mp he
        rfl
      pos := by
        intro n hn
        rw [profile_eq_frequencies, map_snd_frequencies] at hn
        obtain ⟨c, hc, rfl⟩ := List.mem_map.mp hn
        exact List.count_pos_iff.mpr (Text.mem_firstOfEach.mp hc)
      sum_eq := sum_profile t }

/-! ## 3. Renaming -/

/-- **A renaming renames the entries** and leaves their order and their counts alone. -/
theorem profile_map {t : Text} {f : CodePoint → CodePoint} (hf : Set.InjOn f {c | c ∈ t}) :
    profile (t.map f) = (profile t).map fun e => (f e.1, e.2) := by
  have hcount (c : CodePoint) (hc : c ∈ firstOfEach t) : (t.map f).count (f c) = t.count c := by
    simpa only [Multiset.map_coe, Multiset.coe_count] using
      Multiset.count_map_eq_count f (t : Multiset CodePoint) hf c (Text.mem_firstOfEach.mp hc)
  simp only [profile_eq_frequencies, frequencies, Text.firstOfEach_map hf, List.map_map,
    Function.comp_def]
  refine List.map_congr_left fun c hc => ?_
  rw [hcount c hc]

/-- The counts alone determine the entropy: the length of the text is their sum. -/
theorem ofText_eq_of_counts {t u : Text}
    (h : (profile u).map (·.2) = (profile t).map (·.2)) : ofText u = ofText t := by
  have hlength : u.length = t.length := by rw [← sum_profile u, ← sum_profile t, h]
  simp only [ofText, hlength, h]

/-- **The entropy depends on the frequencies of the characters only.**  A text that is not empty has
the entropy of its counts, and these are one for each character in the order of first appearance.
Texts with the same counts have the same entropy, and so has a text whose characters are renamed
without making two of them equal. -/
theorem ofText_renamed {t : Text} (h : t.length ≠ 0) :
    IsProfile t (profile t) ∧
      ofText t = ofCounts t.length h ((profile t).map (·.2)) ∧
      (∀ u, (profile u).map (·.2) = (profile t).map (·.2) → ofText u = ofText t) ∧
      ∀ f : CodePoint → CodePoint, Set.InjOn f {c | c ∈ t} →
        (profile (t.map f)).map (·.2) = (profile t).map (·.2) ∧ ofText (t.map f) = ofText t := by
  refine ⟨isProfile_profile t, dif_neg h, fun u hu => ofText_eq_of_counts hu, ?_⟩
  intro f hf
  have hcounts : (profile (t.map f)).map (·.2) = (profile t).map (·.2) := by
    rw [profile_map hf, List.map_map]
    rfl
  exact ⟨hcounts, ofText_eq_of_counts hcounts⟩

/-- A lone surrogate is a character like any other, and the renaming need not be injective beyond
the characters of the text. -/
theorem ofText_renamed_mirrored :
    IsProfile [98, 97, 0xD800, 97, 0xD800, 97] [(98, 1), (97, 3), (0xD800, 2)] ∧
      ofText [0xD79E, 0xD79F, 0, 0xD79F, 0, 0xD79F] = ofText [98, 97, 0xD800, 97, 0xD800, 97] := by
  have hmirror : Set.InjOn (fun c => 0xD800 - c) {c | c ∈ [98, 97, 0xD800, 97, 0xD800, 97]} := by
    have hall : ∀ a ∈ [98, 97, 0xD800, 97, 0xD800, 97], ∀ b ∈ [98, 97, 0xD800, 97, 0xD800, 97],
        0xD800 - a = 0xD800 - b → a = b := by decide
    exact fun a ha b hb hab => hall a ha b hb hab
  obtain ⟨htable, -, -, hrenamed⟩ :=
    ofText_renamed (t := [98, 97, 0xD800, 97, 0xD800, 97]) (by decide)
  exact ⟨htable, (hrenamed _ hmirror).2⟩

end Entropy
end ThreatScan
