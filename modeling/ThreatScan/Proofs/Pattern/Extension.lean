/-
# Ends in a longer text

Where a pattern can stop depends on what precedes a place only if the pattern asks for the beginning
of the text (`ends_shift`), and on what follows only if it can stop in there (`ends_extend`).  In
between, `ends_extend_filter` says that a pattern keeps its ends in the longer text, in their order,
and that all others lie within what was added; a commitment keeps that only if none of its ends
lies there.

So the occurrences in a text and in what follows it add up, unless one goes beyond the border
(`count_append`).
-/
import ThreatScan.Proofs.Pattern.Language
import ThreatScan.Proofs.Pattern.Occurrence

namespace ThreatScan

namespace Cursor

/-- The same place behind `n` further code points. -/
def shift (n : ℕ) (c : Cursor) : Cursor := ⟨n + c.offset, c.rest⟩

/-- The same place in front of a further text. -/
def extend (u : Text) (c : Cursor) : Cursor := ⟨c.offset, c.rest ++ u⟩

@[simp] theorem shift_offset (n : ℕ) (c : Cursor) : (c.shift n).offset = n + c.offset := rfl

@[simp] theorem shift_rest (n : ℕ) (c : Cursor) : (c.shift n).rest = c.rest := rfl

@[simp] theorem extend_offset (u : Text) (c : Cursor) : (c.extend u).offset = c.offset := rfl

@[simp] theorem extend_rest (u : Text) (c : Cursor) : (c.extend u).rest = c.rest ++ u := rfl

end Cursor

namespace Pattern

open Cursor

/-! ## 1. What precedes a place -/

/-- The pattern does not ask for the beginning of the text. -/
def isFloating : Pattern → Bool
  | .each _ => true
  | .atStart => false
  | .seq p q => p.isFloating && q.isFloating
  | .alt p q => p.isFloating && q.isFloating
  | .many _ _ _ => true
  | .commit p => p.isFloating

theorem after?_shift (ks : List CharClass) (n offset : ℕ) (t : Text) :
    after? ks (n + offset) t = (after? ks offset t).map (shift n) := by
  induction ks generalizing offset t with
  | nil => rfl
  | cons k ks ih =>
    cases t with
    | nil => rfl
    | cons x t =>
      rw [after?, after?]
      split
      · exact ih (offset + 1) t
      · rfl

theorem places_shift (k : CharClass) (least n offset : ℕ) (t : Text) :
    places k least (n + offset) t = (places k least offset t).map (shift n) := by
  induction t generalizing least offset with
  | nil =>
    rw [places, places]
    split <;> rfl
  | cons x t ih =>
    rw [places, places, List.map_append]
    congr 1
    · split <;> rfl
    · split
      · exact ih (least - 1) (offset + 1)
      · rfl

/-- **A floating pattern stops at the same places** wherever the text stands. -/
theorem ends_shift {p : Pattern} (hp : p.isFloating = true) (n : ℕ) (c : Cursor) :
    p.ends (c.shift n) = (p.ends c).map (shift n) := by
  induction p generalizing c with
  | each ks =>
    rw [ends, ends, shift_offset, shift_rest, after?_shift, Option.toList_map]
  | atStart => cases hp
  | seq p q hp' hq' =>
    rw [isFloating, Bool.and_eq_true] at hp
    rw [ends, ends, hp' hp.1, List.flatMap_map, List.map_flatMap]
    congr 1
    funext d
    exact hq' hp.2 d
  | alt p q hp' hq' =>
    rw [isFloating, Bool.and_eq_true] at hp
    rw [ends, ends, hp' hp.1, hq' hp.2, List.map_append]
  | many k least isLazy =>
    rw [ends, ends, shift_offset, shift_rest, places_shift]
    split
    · rfl
    · exact List.map_reverse.symm
  | commit p hp' =>
    rw [ends, ends, hp' hp, List.map_take]

/-! ## 2. What follows a place -/

theorem length_rest_le {p : Pattern} {c d : Cursor} (h : d ∈ p.ends c) :
    d.rest.length ≤ c.rest.length := by
  obtain ⟨w, hw, -⟩ := accepts_of_mem_ends h
  rw [hw.rest, List.length_append]
  exact Nat.le_add_left _ _

/-- The place does not lie within the text `u` at the end. -/
def outside (u : Text) (c : Cursor) : Bool := decide (u.length ≤ c.rest.length)

theorem outside_extend (u : Text) (c : Cursor) : outside u (c.extend u) = true := by
  simp [outside]

/-- The pattern does not stop within `u` from a place in front of it. -/
def Stops (p : Pattern) (u : Text) : Prop :=
  ∀ c : Cursor, ∀ d ∈ p.ends (c.extend u), outside u d = true

/-- No commitment in the pattern lies within `u`. -/
def CommitsStop (u : Text) : Pattern → Prop
  | .each _ => True
  | .atStart => True
  | .seq p q => p.CommitsStop u ∧ q.CommitsStop u
  | .alt p q => p.CommitsStop u ∧ q.CommitsStop u
  | .many _ _ _ => True
  | .commit p => p.CommitsStop u ∧ p.Stops u

theorem filter_outside_eq_nil {u : Text} {ds : List Cursor}
    (h : ∀ d ∈ ds, d.rest.length < u.length) : ds.filter (outside u) = [] := by
  refine List.filter_eq_nil_iff.mpr ?_
  intro d hd
  simpa [outside] using h d hd

theorem after?_extend (u : Text) (ks : List CharClass) (offset : ℕ) (t : Text) :
    (after? ks offset (t ++ u)).toList.filter (outside u) =
      (after? ks offset t).toList.map (extend u) := by
  induction ks generalizing offset t with
  | nil => simp [after?, outside, extend]
  | cons k ks ih =>
    cases t with
    | nil =>
      refine filter_outside_eq_nil ?_
      intro d hd
      obtain ⟨hlength, rfl⟩ := eq_advance_of_after? (Option.mem_toList.mp hd)
      simp only [List.nil_append, List.length_cons, advance, List.length_drop] at hlength ⊢
      omega
    | cons x t =>
      rw [List.cons_append, after?, after?]
      split
      · exact ih (offset + 1) t
      · rfl

theorem places_extend (u : Text) (k : CharClass) (least offset : ℕ) (t : Text) :
    (places k least offset (t ++ u)).filter (outside u) =
      (places k least offset t).map (extend u) := by
  induction t generalizing least offset with
  | nil =>
    have hhere : (if least = 0 then [(⟨offset, u⟩ : Cursor)] else []).filter (outside u) =
        (if least = 0 then [(⟨offset, []⟩ : Cursor)] else []).map (extend u) := by
      split <;> simp [outside, extend]
    cases u with
    | nil => exact hhere
    | cons y u =>
      have hplaces : places k least offset (y :: u) =
          (if least = 0 then [⟨offset, y :: u⟩] else []) ++
            if k.has y then places k (least - 1) (offset + 1) u else [] := rfl
      rw [List.nil_append, hplaces, List.filter_append, hhere, filter_outside_eq_nil,
        List.append_nil]
      · rfl
      · intro d hd
        split at hd
        case isTrue =>
          obtain ⟨n, -, ⟨hn, -⟩, rfl⟩ := mem_places.mp hd
          simp only [advance, List.length_drop, List.length_cons]
          omega
        case isFalse => cases hd
  | cons x t ih =>
    rw [List.cons_append, places, places, List.filter_append, List.map_append]
    congr 1
    · split
      · exact List.filter_eq_self.mpr fun d hd => by
          rw [List.mem_singleton.mp hd]
          exact outside_extend u ⟨offset, x :: t⟩
      · rfl
    · split
      · exact ih (least - 1) (offset + 1)
      · rfl

/-- Entries without results need not be looked at. -/
theorem flatMap_filter_of_nil {α β : Type} {xs : List α} {f : α → List β} {P : α → Bool}
    (h : ∀ x ∈ xs, P x = false → f x = []) : xs.flatMap f = (xs.filter P).flatMap f := by
  induction xs with
  | nil => rfl
  | cons x xs ih =>
    rw [List.flatMap_cons, List.filter_cons, ih (fun y hy => h y (List.mem_cons_of_mem _ hy))]
    cases hx : P x with
    | true => simp
    | false => simp [h x List.mem_cons_self hx]

/-- **A longer text has the ends of the shorter one**, and others only within what was added. -/
theorem ends_extend_filter {p : Pattern} {u : Text} (hp : p.CommitsStop u) (c : Cursor) :
    (p.ends (c.extend u)).filter (outside u) = (p.ends c).map (extend u) := by
  induction p generalizing c with
  | each ks => exact after?_extend u ks c.offset c.rest
  | atStart =>
    rw [ends, ends, extend_offset]
    split
    · rw [List.filter_singleton, outside_extend]
      rfl
    · rfl
  | seq p q hp' hq' =>
    have hwithin : ∀ d ∈ p.ends (c.extend u), outside u d = false →
        (q.ends d).filter (outside u) = [] := by
      intro d _ hd
      refine filter_outside_eq_nil ?_
      intro e he
      have hle := length_rest_le he
      simp only [outside, decide_eq_false_iff_not, Nat.not_le] at hd
      omega
    rw [ends, ends, List.filter_flatMap, flatMap_filter_of_nil hwithin, hp' hp.1,
      List.flatMap_map, List.map_flatMap]
    congr 1
    funext d
    exact hq' hp.2 d
  | alt p q hp' hq' =>
    rw [ends, ends, List.filter_append, List.map_append, hp' hp.1, hq' hp.2]
  | many k least isLazy =>
    rw [ends, ends]
    split
    · exact places_extend u k least c.offset c.rest
    · rw [List.filter_reverse, List.map_reverse]
      exact congrArg List.reverse (places_extend u k least c.offset c.rest)
  | commit p hp' =>
    have hall : p.ends (c.extend u) = (p.ends c).map (extend u) := by
      rw [← hp' hp.1 c, List.filter_eq_self.mpr (hp.2 c)]
    rw [ends, ends, hall, List.map_take]
    refine List.filter_eq_self.mpr ?_
    intro d hd
    obtain ⟨b, -, rfl⟩ := List.mem_map.mp (List.mem_of_mem_take hd)
    exact outside_extend u b

/-- **A pattern that does not stop in what was added has no further ends.** -/
theorem ends_extend {p : Pattern} {u : Text} (hcommit : p.CommitsStop u) (hstop : p.Stops u)
    (c : Cursor) : p.ends (c.extend u) = (p.ends c).map (extend u) := by
  rw [← ends_extend_filter hcommit c, List.filter_eq_self.mpr (hstop c)]

/-! ## 3. Counting -/

/-- The length of the preferred occurrence at the beginning of a text. -/
def reach? (p : Pattern) (t : Text) : Option ℕ := (p.ends ⟨0, t⟩).head?.map (·.offset)

/-- The number of occurrences in a text whose first `skip` code points belong to the last one. -/
def tally (p : Pattern) : Text → ℕ → ℕ
  | [], _ => 0
  | _ :: t, skip + 1 => p.tally t skip
  | x :: t, 0 =>
    match p.reach? (x :: t) with
    | none => p.tally t 0
    | some n => p.tally t (n - 1) + 1

variable {p : Pattern}

theorem le_of_reach? {t : Text} {n : ℕ} (h : p.reach? t = some n) : n ≤ t.length := by
  obtain ⟨d, hd, rfl⟩ := Option.map_eq_some_iff.mp h
  obtain ⟨w, hw, -⟩ := accepts_of_mem_ends (List.mem_of_mem_head? hd)
  have hrest : t = w ++ d.rest := hw.rest
  have hoffset : d.offset = 0 + w.length := hw.offset
  rw [hoffset, hrest, List.length_append]
  omega

theorem tally_append {u : Text} (hcommit : p.CommitsStop u) (hstop : p.Stops u) (t : Text)
    {skip : ℕ} (hskip : skip ≤ t.length) :
    p.tally (t ++ u) skip = p.tally t skip + p.tally u 0 := by
  induction t generalizing skip with
  | nil =>
    obtain rfl := Nat.le_zero.mp hskip
    rw [List.nil_append, tally, Nat.zero_add]
  | cons x t ih =>
    cases skip with
    | succ skip => exact ih (Nat.le_of_succ_le_succ hskip)
    | zero =>
      have hreach : p.reach? (x :: t ++ u) = p.reach? (x :: t) := by
        have hends : p.ends ⟨0, x :: t ++ u⟩ = _ := ends_extend hcommit hstop ⟨0, x :: t⟩
        rw [reach?, reach?, hends, List.head?_map, Option.map_map]
        rfl
      rw [List.cons_append, tally, tally, ← List.cons_append, hreach]
      cases hn : p.reach? (x :: t) with
      | none => exact ih (Nat.zero_le _)
      | some n =>
        have hle := le_of_reach? hn
        rw [List.length_cons] at hle
        show p.tally (t ++ u) (n - 1) + 1 = p.tally t (n - 1) + 1 + p.tally u 0
        rw [ih (by omega)]
        omega

section NonEmpty

variable (hlength : 0 < p.leastLength)
include hlength

theorem ends_nil_eq_nil (offset : ℕ) : p.ends ⟨offset, []⟩ = [] := by
  refine List.eq_nil_iff_forall_not_mem.mpr ?_
  intro d hd
  obtain ⟨w, hw, haccepts⟩ := accepts_of_mem_ends hd
  have hle := leastLength_le haccepts
  have hempty : w = [] := (List.append_eq_nil_iff.mp hw.rest.symm).1
  rw [hempty, List.length_nil] at hle
  omega

/-- A pattern that takes something has at most one occurrence at a place. -/
theorem startingAt_eq (c : Cursor) :
    p.startingAt c = ((p.ends c).head?.map fun d => ⟨c, d.offset⟩).toList := by
  rw [startingAt, run_some]
  cases hhead : (p.ends c).head? with
  | none => rfl
  | some d =>
    obtain ⟨w, hw, haccepts⟩ := accepts_of_mem_ends (List.mem_of_mem_head? hhead)
    have hle := leastLength_le haccepts
    have hoffset := hw.offset
    have hlt : c.offset < d.offset := by omega
    simp [hlt]

variable (hfloating : p.isFloating = true)
include hfloating

theorem length_scan_eq_tally (offset : ℕ) (t : Text) (skip : ℕ) :
    (p.scan offset t skip).length = p.tally t skip := by
  induction t generalizing offset skip with
  | nil =>
    rw [scan, tally, startingAt_eq_nil_iff.mpr (ends_nil_eq_nil hlength offset)]
    simp
  | cons x t ih =>
    cases skip with
    | succ skip => exact ih (offset + 1) skip
    | zero =>
      have hends : p.ends ⟨offset, x :: t⟩ = (p.ends ⟨0, x :: t⟩).map (shift offset) :=
        ends_shift hfloating offset ⟨0, x :: t⟩
      rw [scan, tally, startingAt_eq hlength, hends, reach?, List.head?_map]
      cases (p.ends ⟨0, x :: t⟩).head? with
      | none => exact ih (offset + 1) 0
      | some d => simp [ih]

/-- **A search goes from one preferred occurrence to the next.** -/
theorem count_eq_tally (t : Text) : p.count t = p.tally t 0 := by
  rw [count_eq_length_scan]
  exact length_scan_eq_tally hlength hfloating 0 t 0

/-- **Occurrences add up** unless one stops in what was added. -/
theorem count_append {u : Text} (hcommit : p.CommitsStop u) (hstop : p.Stops u) (t : Text) :
    p.count (t ++ u) = p.count t + p.count u := by
  simp only [count_eq_tally hlength hfloating]
  exact tally_append hcommit hstop t (Nat.zero_le _)

/-- What starts no occurrence has no part in the count. -/
theorem count_append_of_dead {b : Text} (hdead : ∀ x ∈ b, ∀ t, p.ends ⟨0, x :: t⟩ = [])
    (t : Text) : p.count (b ++ t) = p.count t := by
  simp only [count_eq_tally hlength hfloating]
  induction b with
  | nil => rfl
  | cons x b ih =>
    have hreach : p.reach? (x :: (b ++ t)) = none := by
      rw [reach?, hdead x List.mem_cons_self]
      rfl
    rw [List.cons_append, tally, hreach]
    exact ih fun y hy => hdead y (List.mem_cons_of_mem _ hy)

theorem count_nil : p.count [] = 0 := by
  rw [count_eq_tally hlength hfloating, tally]

end NonEmpty

end Pattern
end ThreatScan
