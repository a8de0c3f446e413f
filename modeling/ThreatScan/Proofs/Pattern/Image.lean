/-
# Patterns in the image of a text

A map of code points changes a text place by place.  A pattern is blind to it if none of its classes
tells a code point from its image; then the pattern stops at the same places in the image of a text
(`ends_image`), a search finds the same occurrences, and there are as many of them (`count_map`).
Nothing else in a pattern looks at a code point.
-/
import ThreatScan.Proofs.Pattern.Occurrence

namespace ThreatScan

variable {f : CodePoint → CodePoint}

/-- The same place in the image of the text. -/
def Cursor.image (f : CodePoint → CodePoint) (c : Cursor) : Cursor := ⟨c.offset, c.rest.map f⟩

/-- The same occurrence in the image of the text. -/
def Occurrence.image (f : CodePoint → CodePoint) (o : Occurrence) : Occurrence :=
  ⟨o.start.image f, o.stop⟩

@[simp] theorem Cursor.image_offset (f : CodePoint → CodePoint) (c : Cursor) :
    (c.image f).offset = c.offset := rfl

@[simp] theorem Cursor.image_rest (f : CodePoint → CodePoint) (c : Cursor) :
    (c.image f).rest = c.rest.map f := rfl

namespace Pattern

open Cursor

/-! ## 1. Blind patterns -/

/-- The classes that a pattern asks for. -/
def classes : Pattern → List CharClass
  | .each ks => ks
  | .atStart => []
  | .seq p q => p.classes ++ q.classes
  | .alt p q => p.classes ++ q.classes
  | .many k _ _ => [k]
  | .commit p => p.classes

/-- No class of the pattern tells a code point from its image. -/
def IsBlindTo (f : CodePoint → CodePoint) (p : Pattern) : Prop :=
  ∀ k ∈ p.classes, ∀ x, k.has (f x) = k.has x

/-! ## 2. Ends -/

theorem after?_image {ks : List CharClass} (hks : ∀ k ∈ ks, ∀ x, k.has (f x) = k.has x)
    (offset : ℕ) (t : Text) : after? ks offset (t.map f) = (after? ks offset t).map (image f) := by
  induction ks generalizing offset t with
  | nil => rfl
  | cons k ks ih =>
    obtain ⟨hk, hks⟩ := List.forall_mem_cons.mp hks
    cases t with
    | nil => rfl
    | cons x t =>
      rw [List.map_cons, after?, after?, hk x]
      split
      · exact ih hks (offset + 1) t
      · rfl

theorem places_image {k : CharClass} (hk : ∀ x, k.has (f x) = k.has x) (least offset : ℕ)
    (t : Text) : places k least offset (t.map f) = (places k least offset t).map (image f) := by
  induction t generalizing least offset with
  | nil =>
    rw [List.map_nil, places]
    split <;> rfl
  | cons x t ih =>
    rw [List.map_cons, places, places, hk x, List.map_append]
    congr 1
    · split <;> rfl
    · split
      · exact ih (least - 1) (offset + 1)
      · rfl

/-- **A blind pattern stops at the same places** in the image of a text. -/
theorem ends_image {p : Pattern} (hp : p.IsBlindTo f) (c : Cursor) :
    p.ends (c.image f) = (p.ends c).map (image f) := by
  induction p generalizing c with
  | each ks =>
    have hks : ∀ k ∈ ks, ∀ x, k.has (f x) = k.has x := hp
    rw [ends, ends, image_offset, image_rest, after?_image hks, Option.toList_map]
  | atStart =>
    rw [ends, ends, image_offset]
    split <;> rfl
  | seq p q hp' hq' =>
    obtain ⟨hleft, hright⟩ := List.forall_mem_append.mp hp
    rw [ends, ends, hp' hleft, List.flatMap_map, List.map_flatMap]
    congr 1
    funext d
    exact hq' hright d
  | alt p q hp' hq' =>
    obtain ⟨hleft, hright⟩ := List.forall_mem_append.mp hp
    rw [ends, ends, hp' hleft, hq' hright, List.map_append]
  | many k least isLazy =>
    rw [ends, ends, image_offset, image_rest, places_image (List.forall_mem_singleton.mp hp)]
    split
    · rfl
    · exact List.map_reverse.symm
  | commit p hp' => rw [ends, ends, hp' hp, List.map_take]

/-! ## 3. Occurrences -/

variable {p : Pattern} (hp : p.IsBlindTo f)
include hp

theorem run_image (c : Cursor) {answer : Cursor → Option Cursor}
    (hanswer : ∀ d, answer (d.image f) = (answer d).map (image f)) :
    p.run (c.image f) answer = (p.run c answer).map (image f) := by
  rw [run_eq_findSome?, run_eq_findSome?, ends_image hp, List.findSome?_map, List.map_findSome?]
  congr 1
  funext d
  exact hanswer d

theorem startingAt_image (c : Cursor) :
    p.startingAt (c.image f) = (p.startingAt c).map (Occurrence.image f) := by
  have hsome : p.run (c.image f) some = (p.run c some).map (image f) :=
    run_image hp c fun _ => rfl
  have hfurther : p.run (c.image f) (fun d => if c.offset < d.offset then some d else none) =
      (p.run c fun d => if c.offset < d.offset then some d else none).map (image f) := by
    refine run_image hp c ?_
    intro d
    rw [image_offset]
    split <;> rfl
  rw [startingAt, startingAt, image_offset, hsome, hfurther]
  cases p.run c some with
  | none => rfl
  | some d =>
    by_cases hlt : c.offset < d.offset
    · simp [hlt, Occurrence.image]
    · cases p.run c fun d => if c.offset < d.offset then some d else none <;>
        simp [hlt, Occurrence.image]

theorem scan_image (offset : ℕ) (t : Text) (skip : ℕ) :
    p.scan offset (t.map f) skip = (p.scan offset t skip).map (Occurrence.image f) := by
  induction t generalizing offset skip with
  | nil =>
    rw [List.map_nil, scan]
    split
    · exact startingAt_image hp ⟨offset, []⟩
    · rfl
  | cons x t ih =>
    cases skip with
    | succ skip => exact ih (offset + 1) skip
    | zero =>
      have hhere : p.startingAt ⟨offset, f x :: t.map f⟩ =
          (p.startingAt ⟨offset, x :: t⟩).map (Occurrence.image f) :=
        startingAt_image hp ⟨offset, x :: t⟩
      rw [List.map_cons, scan, scan, hhere]
      cases p.startingAt ⟨offset, x :: t⟩ with
      | nil => exact ih (offset + 1) 0
      | cons o os =>
        have hlast : ((os.map (Occurrence.image f)).getLast?.getD (o.image f)).stop =
            (os.getLast?.getD o).stop := by
          rw [List.getLast?_map, Option.getD_map]
          rfl
        simp only [List.map_cons, List.map_append, hlast, ih]

/-- **A blind pattern occurs as often** in the image of a text. -/
theorem count_map (t : Text) : p.count (t.map f) = p.count t := by
  rw [count_eq_length_scan, count_eq_length_scan, scan_image hp, List.length_map]

end Pattern
end ThreatScan
