/-
# Alternatives

A pattern that is a choice takes what one of its alternatives takes, so each of these refines it
(`refines_of_mem_alternatives`).  Some alternatives are words, the others begin and end with a word
and leave a gap between.

Whether a word can stand within another one, or begin there and go on behind it, is read off the
classes of the words: `hasWithin` and `canBeginWithin` compare every place of one word with the
other one, and two words cannot stand at the same place if no code point is in the classes of both.
-/
import ThreatScan.Proofs.Pattern.Language

namespace ThreatScan

namespace CharClass

/-- No code point is in both classes, as far as their ranges of small letters tell. -/
def isApart : CharClass → CharClass → Bool
  | .lowerWithin rs, .lowerWithin rs' => rs.all fun r => rs'.all fun r' => r.2 < r'.1 || r'.2 < r.1
  | _, _ => false

theorem exists_of_covers {c : CodePoint} {rs : List (CodePoint × CodePoint)}
    (h : covers c rs = true) : ∃ r ∈ rs, r.1 ≤ c ∧ c ≤ r.2 := by
  induction rs with
  | nil => cases h
  | cons r rs ih =>
    rw [covers, Bool.or_eq_true, Bool.and_eq_true, decide_eq_true_eq, decide_eq_true_eq] at h
    rcases h with h | h
    · exact ⟨r, List.mem_cons_self, h⟩
    · obtain ⟨r', hr', h⟩ := ih h
      exact ⟨r', List.mem_cons_of_mem r hr', h⟩

theorem isApart_eq_false {k k' : CharClass} {c : CodePoint} (h : k.has c = true)
    (h' : k'.has c = true) : k.isApart k' = false := by
  cases k <;> cases k' <;> try rfl
  case lowerWithin.lowerWithin rs rs' =>
    obtain ⟨r, hr, hlow, hhigh⟩ := exists_of_covers h
    obtain ⟨r', hr', hlow', hhigh'⟩ := exists_of_covers h'
    rw [isApart, List.all_eq_false]
    refine ⟨r, hr, ?_⟩
    rw [Bool.not_eq_true, List.all_eq_false]
    refine ⟨r', hr', ?_⟩
    rw [Bool.or_eq_true, decide_eq_true_eq, decide_eq_true_eq, not_or, Nat.not_lt, Nat.not_lt]
    exact ⟨Nat.le_trans hlow' hhigh, Nat.le_trans hlow hhigh'⟩

end CharClass

namespace Pattern

/-! ## 1. Choices -/

/-- The patterns that a choice is between, in order of preference. -/
def alternatives : Pattern → List Pattern
  | .alt p q => p.alternatives ++ q.alternatives
  | p => [p]

variable {p q : Pattern} {w : Text} {ks ks' : List CharClass}

theorem accepts_iff_alternatives : p.Accepts w ↔ ∃ q ∈ p.alternatives, q.Accepts w := by
  induction p with
  | alt p q hp hq =>
    rw [Accepts, hp, hq, alternatives]
    simp only [List.mem_append, or_and_right, exists_or]
  | each | atStart | seq | many | commit => simp [alternatives]

theorem ends_eq_flatMap_alternatives (c : Cursor) :
    p.ends c = p.alternatives.flatMap fun q => q.ends c := by
  induction p with
  | alt p q hp hq => rw [ends, hp, hq, alternatives, List.flatMap_append]
  | each | atStart | seq | many | commit => simp [alternatives]

/-- **An alternative refines the choice.** -/
theorem refines_of_mem_alternatives (h : q ∈ p.alternatives) : q.Refines p := by
  intro c d hd
  rw [ends_eq_flatMap_alternatives]
  exact List.mem_flatMap.mpr ⟨q, h, hd⟩

/-! ## 2. Words -/

/-- The text has one code point of each class in turn. -/
def Fits (ks : List CharClass) (w : Text) : Prop := List.Forall₂ (fun k x => k.has x = true) ks w

instance (ks : List CharClass) (w : Text) : Decidable (Fits ks w) :=
  inferInstanceAs (Decidable (List.Forall₂ _ ks w))

theorem Fits.length_eq (h : Fits ks w) : ks.length = w.length := List.Forall₂.length_eq h

/-- The classes of a word. -/
def word? : Pattern → Option (List CharClass)
  | .each ks => some ks
  | _ => none

/-- The words among the alternatives. -/
def wordsOf (p : Pattern) : List (List CharClass) := p.alternatives.filterMap word?

/-- The pattern takes the text as a word, and not with a gap. -/
def TakesWord (p : Pattern) (w : Text) : Prop := ∃ ks ∈ p.wordsOf, Fits ks w

instance (p : Pattern) (w : Text) : Decidable (p.TakesWord w) :=
  inferInstanceAs (Decidable (∃ ks ∈ p.wordsOf, Fits ks w))

theorem mem_wordsOf : ks ∈ p.wordsOf ↔ each ks ∈ p.alternatives := by
  rw [wordsOf, List.mem_filterMap]
  constructor
  · rintro ⟨q, hq, hword⟩
    cases q <;> cases hword
    exact hq
  · exact fun h => ⟨_, h, rfl⟩

theorem TakesWord.accepts (h : p.TakesWord w) : p.Accepts w := by
  obtain ⟨ks, hks, hw⟩ := h
  exact accepts_iff_alternatives.mpr ⟨_, mem_wordsOf.mp hks, hw⟩

/-- What a pattern takes otherwise it takes with a gap. -/
theorem exists_gap_of_accepts (h : p.Accepts w) (hword : ¬ p.TakesWord w) :
    ∃ q ∈ p.alternatives, q.word? = none ∧ q.Accepts w := by
  obtain ⟨q, hq, hw⟩ := accepts_iff_alternatives.mp h
  refine ⟨q, hq, ?_, hw⟩
  cases q <;> try rfl
  case each ks => exact absurd ⟨ks, mem_wordsOf.mpr hq, hw⟩ hword

/-- The word that all begins with. -/
def front : Pattern → List CharClass
  | .each ks => ks
  | .seq p _ => p.front
  | _ => []

/-- The word that all ends with. -/
def back : Pattern → List CharClass
  | .each ks => ks
  | .seq _ q => q.back
  | _ => []

theorem exists_of_front (h : p.Accepts w) : ∃ u v, w = u ++ v ∧ Fits p.front u := by
  induction p generalizing w with
  | each ks => exact ⟨w, [], (List.append_nil w).symm, h⟩
  | seq p q hp =>
    obtain ⟨x, y, rfl, hx, -⟩ := h
    obtain ⟨u, v, rfl, hu⟩ := hp hx
    exact ⟨u, v ++ y, List.append_assoc .., hu⟩
  | atStart | alt | many | commit => exact ⟨[], w, rfl, .nil⟩

theorem exists_of_back (h : p.Accepts w) : ∃ u v, w = u ++ v ∧ Fits p.back v := by
  induction p generalizing w with
  | each ks => exact ⟨[], w, rfl, h⟩
  | seq p q _ hq =>
    obtain ⟨x, y, rfl, -, hy⟩ := h
    obtain ⟨u, v, rfl, hv⟩ := hq hy
    exact ⟨x ++ u, v, (List.append_assoc ..).symm, hv⟩
  | atStart | alt | many | commit => exact ⟨w, [], (List.append_nil w).symm, .nil⟩

/-! ## 3. Words at the same place -/

variable {a b c t u : Text}

/-- Some classes at the same place of both words are apart. -/
def areClashing (ks ks' : List CharClass) : Bool := (ks.zip ks').any fun k => k.1.isApart k.2

/-- Words that begin the same text do not clash. -/
theorem areClashing_eq_false (ha : Fits ks a) (hb : Fits ks' b) (hat : a <+: t) (hbt : b <+: t) :
    areClashing ks ks' = false := by
  refine List.any_eq_false.mpr ?_
  intro k hk
  obtain ⟨i, hi, rfl⟩ := List.mem_iff_getElem.mp hk
  rw [List.length_zip, Nat.lt_min] at hi
  have hia : i < a.length := ha.length_eq ▸ hi.1
  have hib : i < b.length := hb.length_eq ▸ hi.2
  have hx : ks[i].has a[i] = true := List.Forall₂.get ha hi.1 hia
  have hy : ks'[i].has b[i] = true := List.Forall₂.get hb hi.2 hib
  have hsame : a[i] = b[i] := (hat.getElem hia).trans (hbt.getElem hib).symm
  rw [List.getElem_zip, CharClass.isApart_eq_false hx (hsame ▸ hy)]
  exact Bool.false_ne_true

/-- The second word can stand within the first one. -/
def hasWithin (ks ks' : List CharClass) : Bool :=
  (List.range (ks.length + 1)).any fun i =>
    decide (i + ks'.length ≤ ks.length) && !areClashing (ks.drop i) ks'

/-- The second word can begin within the first one, behind its first letter. -/
def canBeginWithin (ks ks' : List CharClass) : Bool :=
  (List.range ks.length).any fun i => decide (0 < i) && !areClashing (ks.drop i) ks'

theorem Fits.drop (h : Fits ks (a ++ b)) : Fits (ks.drop a.length) b := by
  have hdrop := List.forall₂_drop a.length h
  rwa [List.drop_left] at hdrop

theorem hasWithin_of_fits (h : Fits ks (a ++ (b ++ c))) (hb : Fits ks' b) :
    hasWithin ks ks' = true := by
  have hlength := h.length_eq
  have hlength' := hb.length_eq
  rw [List.length_append, List.length_append] at hlength
  refine List.any_eq_true.mpr ⟨a.length, List.mem_range.mpr (by omega), ?_⟩
  have hclash := areClashing_eq_false h.drop hb List.prefix_rfl (List.prefix_append b c)
  rw [hclash, Bool.not_false, Bool.and_true, decide_eq_true_eq]
  omega

theorem canBeginWithin_of_fits (h : Fits ks (a ++ b)) (ha : a ≠ []) (hb : b ≠ [])
    (hu : Fits ks' u) (hbt : b <+: t) (hut : u <+: t) : canBeginWithin ks ks' = true := by
  have hlength := h.length_eq
  have hpos := List.length_pos_iff.mpr ha
  have hpos' := List.length_pos_iff.mpr hb
  rw [List.length_append] at hlength
  refine List.any_eq_true.mpr ⟨a.length, List.mem_range.mpr (by omega), ?_⟩
  rw [areClashing_eq_false h.drop hu hbt hut, Bool.not_false, Bool.and_true, decide_eq_true_eq]
  exact hpos

end Pattern
end ThreatScan
