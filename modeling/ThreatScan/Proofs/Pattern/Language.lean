/-
# The texts that a pattern takes

An end of a pattern has two sides: where it lies, and which text has been taken on the way.
`Accepts p w` is the second side alone.  It says that `w` is one of the texts that `p` describes,
without a word on preference, commitment or place, and so it is what the forms of a secret or of a
keyword are stated with.

Every end takes such a text (`accepts_of_mem_ends`), and a pattern without commitment and anchor has
an end behind every such text (`mem_ends_iff`).  What can be read off the classes of a pattern
alone, such as a code point that it never takes or the least length, has a function on patterns that
a table can be checked with.
-/
import ThreatScan.Proofs.Pattern.Ends

namespace ThreatScan

/-- The text `w` stands between two places. -/
structure Cursor.Reads (c : Cursor) (w : Text) (d : Cursor) : Prop where
  rest : c.rest = w ++ d.rest
  offset : d.offset = c.offset + w.length

namespace Cursor

variable {c d e : Cursor} {u v w : Text}

theorem Reads.nil (c : Cursor) : c.Reads [] c := ⟨rfl, rfl⟩

theorem Reads.append (h : c.Reads u d) (h' : d.Reads v e) : c.Reads (u ++ v) e := by
  refine ⟨?_, ?_⟩
  · rw [h.rest, h'.rest, List.append_assoc]
  · rw [h'.offset, h.offset, List.length_append, Nat.add_assoc]

/-- What is read in two pieces is read with a stop between them. -/
theorem Reads.split (h : c.Reads (u ++ v) e) :
    c.Reads u ⟨c.offset + u.length, v ++ e.rest⟩ ∧
      (⟨c.offset + u.length, v ++ e.rest⟩ : Cursor).Reads v e := by
  refine ⟨⟨?_, rfl⟩, ⟨rfl, ?_⟩⟩
  · rw [h.rest, List.append_assoc]
  · rw [h.offset, List.length_append, Nat.add_assoc]

theorem reads_nil_iff : c.Reads [] d ↔ d = c := by
  constructor
  · rintro ⟨hrest, hoffset⟩
    cases c
    cases d
    simp_all
  · rintro rfl
    exact .nil _

theorem reads_advance {n : ℕ} (h : n ≤ c.rest.length) : c.Reads (c.rest.take n) (c.advance n) := by
  refine ⟨(List.take_append_drop n c.rest).symm, ?_⟩
  rw [List.length_take, Nat.min_eq_left h]
  rfl

theorem Reads.eq_advance (h : c.Reads w d) : d = c.advance w.length := by
  obtain ⟨hrest, hoffset⟩ := h
  cases d
  simp_all [advance]

end Cursor

namespace Pattern

open Cursor

/-! ## 1. Acceptance -/

/-- The pattern can take the text `w`. -/
def Accepts : Pattern → Text → Prop
  | .each ks, w => List.Forall₂ (fun k x => k.has x = true) ks w
  | .atStart, w => w = []
  | .seq p q, w => ∃ u v, w = u ++ v ∧ p.Accepts u ∧ q.Accepts v
  | .alt p q, w => p.Accepts w ∨ q.Accepts w
  | .many k least _, w => least ≤ w.length ∧ ∀ x ∈ w, k.has x = true
  | .commit p, w => p.Accepts w

/-- The pattern neither commits itself nor asks for the beginning of the text. -/
def isPlain : Pattern → Bool
  | .each _ => true
  | .atStart => false
  | .seq p q => p.isPlain && q.isPlain
  | .alt p q => p.isPlain && q.isPlain
  | .many _ _ _ => true
  | .commit _ => false

theorem mem_ends_each {ks : List CharClass} {c d : Cursor} :
    d ∈ (each ks).ends c ↔ ∃ w, c.Reads w d ∧ (each ks).Accepts w := by
  obtain ⟨offset, t⟩ := c
  rw [ends, Option.mem_toList]
  induction ks generalizing offset t with
  | nil =>
    constructor
    · intro h
      exact ⟨[], reads_nil_iff.mpr (Option.some.inj h).symm, .nil⟩
    · rintro ⟨w, hreads, hw⟩
      obtain rfl := List.forall₂_nil_left_iff.mp hw
      rw [reads_nil_iff.mp hreads]
      rfl
  | cons k ks ih =>
    constructor
    · intro h
      cases t with
      | nil => cases h
      | cons x t =>
        rw [after?] at h
        split at h
        case isTrue hx =>
          obtain ⟨w, ⟨hrest, hoffset⟩, hw⟩ := (ih _ _).mp h
          refine ⟨x :: w, ⟨?_, ?_⟩, .cons hx hw⟩
          · simpa using hrest
          · simpa [Nat.add_comm 1, Nat.add_assoc] using hoffset
        case isFalse => cases h
    · rintro ⟨w', ⟨hrest, hoffset⟩, hw'⟩
      obtain ⟨x, w, hx, hw, rfl⟩ := List.forall₂_cons_left_iff.mp hw'
      obtain rfl : t = x :: (w ++ d.rest) := hrest
      rw [after?, if_pos hx]
      refine (ih _ _).mpr ⟨w, ⟨rfl, ?_⟩, hw⟩
      simpa [Nat.add_comm 1, Nat.add_assoc] using hoffset

theorem mem_ends_many_iff {k : CharClass} {least : ℕ} {isLazy : Bool} {c d : Cursor} :
    d ∈ (many k least isLazy).ends c ↔ ∃ w, c.Reads w d ∧ (many k least isLazy).Accepts w := by
  rw [mem_ends_many]
  constructor
  · rintro ⟨n, hn, ⟨hlength, hk⟩, rfl⟩
    refine ⟨c.rest.take n, reads_advance hlength, ?_, hk⟩
    rwa [List.length_take, Nat.min_eq_left hlength]
  · rintro ⟨w, hreads, hn, hk⟩
    refine ⟨w.length, hn, ?_, hreads.eq_advance⟩
    have htake : c.rest.take w.length = w := by rw [hreads.rest, List.take_left]
    refine ⟨?_, by rwa [htake]⟩
    rw [hreads.rest, List.length_append]
    exact Nat.le_add_right _ _

/-- **Every end takes a text that the pattern accepts.** -/
theorem accepts_of_mem_ends {p : Pattern} {c d : Cursor} (h : d ∈ p.ends c) :
    ∃ w, c.Reads w d ∧ p.Accepts w := by
  induction p generalizing c d with
  | each ks => exact mem_ends_each.mp h
  | atStart =>
    rw [ends] at h
    split at h
    · obtain rfl := List.mem_singleton.mp h
      exact ⟨[], .nil d, rfl⟩
    · cases h
  | seq p q hp hq =>
    obtain ⟨b, hb, hd⟩ := List.mem_flatMap.mp h
    obtain ⟨u, hu, hpu⟩ := hp hb
    obtain ⟨v, hv, hqv⟩ := hq hd
    exact ⟨u ++ v, hu.append hv, u, v, rfl, hpu, hqv⟩
  | alt p q hp hq =>
    rcases List.mem_append.mp h with h | h
    · obtain ⟨w, hw, hpw⟩ := hp h
      exact ⟨w, hw, .inl hpw⟩
    · obtain ⟨w, hw, hqw⟩ := hq h
      exact ⟨w, hw, .inr hqw⟩
  | many k least isLazy => exact mem_ends_many_iff.mp h
  | commit p hp => exact hp (List.mem_of_mem_take h)

/-- A pattern that can stop at the end of a text accepts the text. -/
theorem accepts_of_mem_ends_nil {p : Pattern} {w : Text}
    (h : (⟨w.length, []⟩ : Cursor) ∈ p.ends ⟨0, w⟩) : p.Accepts w := by
  obtain ⟨u, hu, hpu⟩ := accepts_of_mem_ends h
  obtain rfl : w = u := by simpa using hu.rest
  exact hpu

theorem mem_ends_of_accepts {p : Pattern} (hplain : p.isPlain = true) {c d : Cursor} {w : Text}
    (hreads : c.Reads w d) (h : p.Accepts w) : d ∈ p.ends c := by
  induction p generalizing c d w with
  | each ks => exact mem_ends_each.mpr ⟨w, hreads, h⟩
  | atStart => cases hplain
  | seq p q hp hq =>
    rw [isPlain, Bool.and_eq_true] at hplain
    obtain ⟨u, v, rfl, hu, hv⟩ := h
    obtain ⟨hfirst, hsecond⟩ := hreads.split
    exact List.mem_flatMap.mpr ⟨_, hp hplain.1 hfirst hu, hq hplain.2 hsecond hv⟩
  | alt p q hp hq =>
    rw [isPlain, Bool.and_eq_true] at hplain
    rw [ends, List.mem_append]
    rcases h with h | h
    · exact .inl (hp hplain.1 hreads h)
    · exact .inr (hq hplain.2 hreads h)
  | many k least isLazy => exact mem_ends_many_iff.mpr ⟨w, hreads, h⟩
  | commit p hp => cases hplain

/-- **A plain pattern ends behind each text that it accepts**, and nowhere else. -/
theorem mem_ends_iff {p : Pattern} (hplain : p.isPlain = true) {c d : Cursor} :
    d ∈ p.ends c ↔ ∃ w, c.Reads w d ∧ p.Accepts w := by
  constructor
  · exact accepts_of_mem_ends
  · rintro ⟨w, hreads, h⟩
    exact mem_ends_of_accepts hplain hreads h

theorem places_zero_ne_nil (k : CharClass) (offset : ℕ) (t : Text) : places k 0 offset t ≠ [] := by
  cases t <;> simp [places]

/-- The farthest place is where the class ends. -/
theorem has_eq_false_of_getLast?_places {k : CharClass} {least offset : ℕ} {t : Text} {d : Cursor}
    (h : (places k least offset t).getLast? = some d) : ∀ x ∈ d.rest.head?, k.has x = false := by
  induction t generalizing least offset with
  | nil =>
    rw [places] at h
    split at h
    · obtain rfl := Option.some.inj h
      simp
    · cases h
  | cons x t ih =>
    rw [places, List.getLast?_append, Option.or_eq_some_iff] at h
    rcases h with h | ⟨hnone, h⟩
    · split at h
      · exact ih h
      · cases h
    · split at h
      case isTrue hleast =>
        obtain rfl := Option.some.inj h
        intro y hy
        obtain rfl : x = y := Option.some.inj hy
        subst hleast
        by_contra hx
        rw [if_pos (by simpa using hx), List.getLast?_eq_none_iff] at hnone
        exact places_zero_ne_nil _ _ _ hnone
      case isFalse => cases h

/-! ## 2. What built patterns accept -/

theorem accepts_sequence_cons {p : Pattern} {ps : List Pattern} {w : Text} :
    (sequence (p :: ps)).Accepts w ↔
      ∃ u v, w = u ++ v ∧ p.Accepts u ∧ (sequence ps).Accepts v := by
  cases ps with
  | nil =>
    show p.Accepts w ↔ ∃ u v, w = u ++ v ∧ p.Accepts u ∧ List.Forall₂ _ [] v
    constructor
    · intro h
      exact ⟨w, [], (List.append_nil w).symm, h, .nil⟩
    · rintro ⟨u, v, rfl, hu, hv⟩
      obtain rfl := List.forall₂_nil_left_iff.mp hv
      rwa [List.append_nil]
  | cons q ps => rfl

theorem accepts_sequence_append (ps qs : List Pattern) {w : Text} :
    (sequence (ps ++ qs)).Accepts w ↔
      ∃ u v, w = u ++ v ∧ (sequence ps).Accepts u ∧ (sequence qs).Accepts v := by
  induction ps generalizing w with
  | nil =>
    constructor
    · intro h
      exact ⟨[], w, rfl, .nil, h⟩
    · rintro ⟨u, v, rfl, hu, hv⟩
      obtain rfl := List.forall₂_nil_left_iff.mp hu
      exact hv
  | cons p ps ih =>
    rw [List.cons_append, accepts_sequence_cons]
    constructor
    · rintro ⟨u, v, rfl, hu, hv⟩
      obtain ⟨v₁, v₂, rfl, h₁, h₂⟩ := ih.mp hv
      exact ⟨u ++ v₁, v₂, (List.append_assoc ..).symm,
        accepts_sequence_cons.mpr ⟨u, v₁, rfl, hu, h₁⟩, h₂⟩
    · rintro ⟨w', v₂, rfl, hw', h₂⟩
      obtain ⟨u, v₁, rfl, hu, h₁⟩ := accepts_sequence_cons.mp hw'
      exact ⟨u, v₁ ++ v₂, List.append_assoc .., hu, ih.mpr ⟨v₁, v₂, rfl, h₁, h₂⟩⟩

theorem accepts_sequence_singleton {p : Pattern} {w : Text} :
    (sequence [p]).Accepts w ↔ p.Accepts w := Iff.rfl

theorem accepts_exact {t w : Text} : (exact t).Accepts w ↔ w = t := by
  show List.Forall₂ _ (t.map CharClass.exactly) w ↔ _
  have hexactly : ∀ x y, (CharClass.exactly x).has y = true ↔ x = y := by
    intro x y
    simp [CharClass.exactly, CharClass.has, CharClass.covers, Nat.le_antisymm_iff]
  rw [List.forall₂_map_left_iff]
  simp only [hexactly, List.forall₂_eq_eq_eq]
  exact eq_comm

theorem accepts_times {n : ℕ} {k : CharClass} {w : Text} :
    (times n k).Accepts w ↔ w.length = n ∧ ∀ x ∈ w, k.has x = true := by
  show List.Forall₂ _ (List.replicate n k) w ↔ _
  rw [List.forall₂_iff_zip, List.length_replicate]
  constructor
  · rintro ⟨rfl, h⟩
    refine ⟨rfl, ?_⟩
    intro x hx
    refine h (a := k) (b := x) ?_
    obtain ⟨i, hi, rfl⟩ := List.mem_iff_getElem.mp hx
    refine List.mem_iff_getElem.mpr ⟨i, by simpa using hi, by simp⟩
  · rintro ⟨rfl, h⟩
    refine ⟨rfl, ?_⟩
    intro k' x hmem
    obtain ⟨hk', hx⟩ := List.of_mem_zip hmem
    rw [List.eq_of_mem_replicate hk']
    exact h x hx

/-! ## 3. What the classes tell -/

/-- The pattern takes no `x`. -/
def excludes (x : CodePoint) : Pattern → Bool
  | .each ks => ks.all fun k => !k.has x
  | .atStart => true
  | .seq p q => p.excludes x && q.excludes x
  | .alt p q => p.excludes x && q.excludes x
  | .many k _ _ => !k.has x
  | .commit p => p.excludes x

theorem notMem_of_excludes {x : CodePoint} {p : Pattern} (hp : p.excludes x = true) {w : Text}
    (h : p.Accepts w) : x ∉ w := by
  induction p generalizing w with
  | each ks =>
    intro hx
    obtain ⟨i, hi, rfl⟩ := List.mem_iff_getElem.mp hx
    have hlength : ks.length = w.length := List.Forall₂.length_eq h
    have hhas : (ks[i]).has w[i] = true := List.Forall₂.get h (by omega) hi
    have hnot := List.all_eq_true.mp hp ks[i] (List.getElem_mem _)
    simp [hhas] at hnot
  | atStart =>
    obtain rfl : w = [] := h
    exact List.not_mem_nil
  | seq p q hp' hq' =>
    rw [excludes, Bool.and_eq_true] at hp
    obtain ⟨u, v, rfl, hu, hv⟩ := h
    rw [List.mem_append, not_or]
    exact ⟨hp' hp.1 hu, hq' hp.2 hv⟩
  | alt p q hp' hq' =>
    rw [excludes, Bool.and_eq_true] at hp
    rcases h with h | h
    · exact hp' hp.1 h
    · exact hq' hp.2 h
  | many k least isLazy =>
    intro hx
    have hhas := h.2 x hx
    simp [excludes, hhas] at hp
  | commit p hp' => exact hp' hp h

/-- The least number of code points that the pattern takes. -/
def leastLength : Pattern → ℕ
  | .each ks => ks.length
  | .atStart => 0
  | .seq p q => p.leastLength + q.leastLength
  | .alt p q => min p.leastLength q.leastLength
  | .many _ least _ => least
  | .commit p => p.leastLength

theorem leastLength_le {p : Pattern} {w : Text} (h : p.Accepts w) : p.leastLength ≤ w.length := by
  induction p generalizing w with
  | each ks => exact Nat.le_of_eq (List.Forall₂.length_eq h)
  | atStart => exact Nat.zero_le _
  | seq p q hp hq =>
    obtain ⟨u, v, rfl, hu, hv⟩ := h
    rw [List.length_append]
    exact Nat.add_le_add (hp hu) (hq hv)
  | alt p q hp hq =>
    rcases h with h | h
    · exact Nat.le_trans (Nat.min_le_left _ _) (hp h)
    · exact Nat.le_trans (Nat.min_le_right _ _) (hq h)
  | many k least isLazy => exact h.1
  | commit p hp => exact hp h

/-- The greatest number of code points that the pattern takes, if there is one. -/
def greatestLength? : Pattern → Option ℕ
  | .each ks => some ks.length
  | .atStart => some 0
  | .seq p q => do return (← p.greatestLength?) + (← q.greatestLength?)
  | .alt p q => do return max (← p.greatestLength?) (← q.greatestLength?)
  | .many _ _ _ => none
  | .commit p => p.greatestLength?

theorem le_greatestLength {p : Pattern} {n : ℕ} (hp : p.greatestLength? = some n) {w : Text}
    (h : p.Accepts w) : w.length ≤ n := by
  induction p generalizing n w with
  | each ks =>
    obtain rfl := Option.some.inj hp
    exact Nat.le_of_eq (List.Forall₂.length_eq h).symm
  | atStart =>
    obtain rfl : w = [] := h
    exact Nat.zero_le _
  | seq p q ihp ihq =>
    obtain ⟨u, v, rfl, hu, hv⟩ := h
    simp only [greatestLength?, Option.bind_eq_bind, Option.bind_eq_some_iff, Option.pure_def,
      Option.some.injEq] at hp
    obtain ⟨m, hm, n, hn, rfl⟩ := hp
    rw [List.length_append]
    exact Nat.add_le_add (ihp hm hu) (ihq hn hv)
  | alt p q ihp ihq =>
    simp only [greatestLength?, Option.bind_eq_bind, Option.bind_eq_some_iff, Option.pure_def,
      Option.some.injEq] at hp
    obtain ⟨m, hm, n, hn, rfl⟩ := hp
    rcases h with h | h
    · exact Nat.le_trans (ihp hm h) (Nat.le_max_left _ _)
    · exact Nat.le_trans (ihq hn h) (Nat.le_max_right _ _)
  | many k least isLazy => cases hp
  | commit p ih => exact ih hp h

end Pattern
end ThreatScan
