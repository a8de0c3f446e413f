/-
# The first of equal entries

`firstOfEach` reads a list from left to right and never takes back what it has kept, so a longer
list keeps all that its beginning keeps, in the same places (`firstOfEach_prefix`).  Every entry is
kept, and none twice, so the counts of what is kept add up to the whole (`sum_count_firstOfEach`).
A list without repetitions stays as it is, and of further entries the new ones are kept
(`firstOfEach_append`).  What is kept stands in the order of first appearance
(`pairwise_idxOf_firstOfEach`), and a map that keeps distinct entries distinct keeps the same ones
(`firstOfEach_map`).
-/
import ThreatScan.Text.Basic
import Mathlib.Algebra.BigOperators.Group.List.Lemmas
import Mathlib.Algebra.GroupWithZero.Nat
import Mathlib.Data.List.Infix
import Mathlib.Data.Set.Function

namespace ThreatScan
namespace Text

variable {α : Type} [BEq α]

/-- What was kept stays below what comes later. -/
theorem suffix_foldl_firstOfEach (xs seen : List α) :
    seen <:+ xs.foldl (fun seen x => if seen.contains x then seen else x :: seen) seen := by
  induction xs generalizing seen with
  | nil => exact List.suffix_refl seen
  | cons x xs ih =>
    rw [List.foldl_cons]
    split
    · exact ih seen
    · exact (List.suffix_cons x seen).trans (ih (x :: seen))

/-- **A longer list keeps what its beginning keeps.** -/
theorem firstOfEach_prefix {xs ys : List α} (h : xs <+: ys) :
    firstOfEach xs <+: firstOfEach ys := by
  obtain ⟨zs, rfl⟩ := h
  rw [firstOfEach, firstOfEach, List.foldl_append, List.reverse_prefix]
  exact suffix_foldl_firstOfEach zs _

/-- What is kept of a list is what the library leaves of it. -/
theorem firstOfEach_eq_eraseDups (xs : List α) : firstOfEach xs = xs.eraseDups := by
  have hloop (seen : List α) :
      (xs.foldl (fun seen x => if seen.contains x then seen else x :: seen) seen).reverse =
        List.eraseDupsBy.loop (· == ·) xs seen := by
    induction xs generalizing seen with
    | nil => rfl
    | cons x xs ih =>
      rw [List.foldl_cons, ih, List.eraseDupsBy.loop, List.contains_eq_any_beq]
      cases seen.any (x == ·) <;> rfl
  exact hloop []

section Lawful

variable [LawfulBEq α]

theorem mem_foldl_firstOfEach {a : α} (xs seen : List α) :
    a ∈ xs.foldl (fun seen x => if seen.contains x then seen else x :: seen) seen ↔
      a ∈ seen ∨ a ∈ xs := by
  induction xs generalizing seen with
  | nil => simp
  | cons x xs ih =>
    rw [List.foldl_cons, ih]
    split
    case isTrue h =>
      have hx : x ∈ seen := List.contains_iff_mem.mp h
      rw [List.mem_cons]
      constructor
      · rintro (ha | ha)
        · exact .inl ha
        · exact .inr (.inr ha)
      · rintro (ha | rfl | ha)
        · exact .inl ha
        · exact .inl hx
        · exact .inr ha
    case isFalse h =>
      rw [List.mem_cons, List.mem_cons]
      tauto

theorem nodup_foldl_firstOfEach (xs : List α) {seen : List α} (h : seen.Nodup) :
    (xs.foldl (fun seen x => if seen.contains x then seen else x :: seen) seen).Nodup := by
  induction xs generalizing seen with
  | nil => exact h
  | cons x xs ih =>
    rw [List.foldl_cons]
    split
    case isTrue => exact ih h
    case isFalse hx =>
      exact ih (List.nodup_cons.mpr ⟨fun hmem => hx (List.contains_iff_mem.mpr hmem), h⟩)

theorem mem_firstOfEach {a : α} {xs : List α} : a ∈ firstOfEach xs ↔ a ∈ xs := by
  rw [firstOfEach, List.mem_reverse, mem_foldl_firstOfEach]
  simp

theorem nodup_firstOfEach (xs : List α) : (firstOfEach xs).Nodup :=
  List.nodup_reverse.mpr (nodup_foldl_firstOfEach xs List.nodup_nil)

theorem firstOfEach_subset {xs ys : List α} (h : xs ⊆ ys) : firstOfEach xs ⊆ firstOfEach ys := by
  intro a ha
  exact mem_firstOfEach.mpr (h (mem_firstOfEach.mp ha))

/-- Of more entries no fewer are kept. -/
theorem length_firstOfEach_le {xs ys : List α} (h : xs ⊆ ys) :
    (firstOfEach xs).length ≤ (firstOfEach ys).length :=
  (List.subperm_of_subset (nodup_firstOfEach xs) (firstOfEach_subset h)).length_le

/-- **Of further entries those are kept that are new.** -/
theorem firstOfEach_append (xs ys : List α) :
    firstOfEach (xs ++ ys) = firstOfEach xs ++ firstOfEach (ys.removeAll xs) := by
  simp only [firstOfEach_eq_eraseDups, List.eraseDups_append]

theorem firstOfEach_of_nodup {xs : List α} (h : xs.Nodup) : firstOfEach xs = xs := by
  rw [firstOfEach_eq_eraseDups]
  induction xs with
  | nil => rfl
  | cons x xs ih =>
    obtain ⟨hx, h⟩ := List.nodup_cons.mp h
    have hother : xs.filter (fun y => !y == x) = xs := by
      refine List.filter_eq_self.mpr ?_
      intro y hy
      have hne : y ≠ x := fun heq => hx (heq ▸ hy)
      simpa using hne
    rw [List.eraseDups_cons, hother, ih h]

theorem firstOfEach_concat_of_mem {x : α} {xs : List α} (h : x ∈ xs) :
    firstOfEach (xs ++ [x]) = firstOfEach xs := by
  have hnew : [x].removeAll xs = [] := by simp [List.removeAll, h]
  rw [firstOfEach_append, hnew]
  exact List.append_nil _

theorem firstOfEach_concat_of_notMem {x : α} {xs : List α} (h : x ∉ xs) :
    firstOfEach (xs ++ [x]) = firstOfEach xs ++ [x] := by
  have hnew : [x].removeAll xs = [x] := by simp [List.removeAll, h]
  rw [firstOfEach_append, hnew]
  rfl

/-- **What is kept stands in the order of first appearance.** -/
theorem pairwise_idxOf_firstOfEach (xs : List α) :
    (firstOfEach xs).Pairwise fun a b => xs.idxOf a < xs.idxOf b := by
  induction xs using List.reverseRecOn with
  | nil => exact List.Pairwise.nil
  | append_singleton xs x ih =>
    have hidx {a : α} (ha : a ∈ firstOfEach xs) : (xs ++ [x]).idxOf a = xs.idxOf a :=
      List.idxOf_append_of_mem (mem_firstOfEach.mp ha)
    have hkept : (firstOfEach xs).Pairwise fun a b => (xs ++ [x]).idxOf a < (xs ++ [x]).idxOf b :=
      ih.imp_of_mem fun ha hb h => by rwa [hidx ha, hidx hb]
    by_cases hx : x ∈ xs
    case pos => rwa [firstOfEach_concat_of_mem hx]
    case neg =>
      rw [firstOfEach_concat_of_notMem hx]
      refine List.pairwise_append.mpr ⟨hkept, List.pairwise_singleton _ _, ?_⟩
      intro a ha b hb
      obtain rfl := List.mem_singleton.mp hb
      rw [hidx ha, List.idxOf_append_of_notMem hx]
      exact Nat.lt_add_right _ (List.idxOf_lt_length_iff.mpr (mem_firstOfEach.mp ha))

/-- **A map that keeps distinct entries distinct keeps the same ones.** -/
theorem firstOfEach_map {β : Type} [BEq β] [LawfulBEq β] {f : α → β} {xs : List α}
    (hf : Set.InjOn f {a | a ∈ xs}) : firstOfEach (xs.map f) = (firstOfEach xs).map f := by
  induction xs using List.reverseRecOn with
  | nil => rfl
  | append_singleton xs x ih =>
    have hrest : firstOfEach (xs.map f) = (firstOfEach xs).map f :=
      ih (hf.mono fun a ha => List.mem_append_left [x] ha)
    rw [List.map_append, List.map_singleton]
    by_cases hx : x ∈ xs
    case pos =>
      rw [firstOfEach_concat_of_mem hx, firstOfEach_concat_of_mem (List.mem_map_of_mem hx), hrest]
    case neg =>
      have hfx : f x ∉ xs.map f := by
        intro hmem
        obtain ⟨a, ha, heq⟩ := List.mem_map.mp hmem
        have hax : a = x := hf (List.mem_append_left _ ha) (by simp) heq
        exact hx (hax ▸ ha)
      rw [firstOfEach_concat_of_notMem hx, firstOfEach_concat_of_notMem hfx, hrest,
        List.map_append, List.map_singleton]

end Lawful

/-- What is kept, counted in the whole list, makes up the whole list. -/
theorem sum_count_firstOfEach {α : Type} [DecidableEq α] (xs : List α) :
    ((firstOfEach xs).map fun x => xs.count x).sum = xs.length := by
  have hperm : (firstOfEach xs).Perm xs.dedup := by
    refine (List.perm_ext_iff_of_nodup (nodup_firstOfEach xs) (List.nodup_dedup xs)).mpr ?_
    intro a
    rw [mem_firstOfEach, List.mem_dedup]
  rw [(hperm.map _).sum_eq, List.sum_map_count_dedup_eq_length]

end Text
end ThreatScan
