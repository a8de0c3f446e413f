/-
# How an occurrence starts

Most places of a text start no occurrence, and their first code point tells.  `firsts?` lists the
classes that an occurrence can start with, and a `Search` is a pattern with a table of them for
the small code points.  `Search.run_eq_none` says that nothing is lost: where the table denies a
start, no run succeeds.
-/
import ThreatScan.Pattern.Basic

namespace ThreatScan
namespace Pattern

/-! ## 1. The first code point -/

/-- The classes that a text which fits can start with; nothing is said of a pattern that the
empty text may fit. -/
def firsts? : Pattern → Option (List CharClass)
  | .each [] => none
  | .each (k :: _) => some [k]
  | .atStart => none
  | .seq p _ => p.firsts?
  | .alt p q => do return (← p.firsts?) ++ (← q.firsts?)
  | .many k least _ => if least = 0 then none else some [k]
  | .commit p => p.firsts?

/-- A text that starts with `c` may fit. -/
def canStart (p : Pattern) (c : CodePoint) : Bool :=
  match p.firsts? with
  | none => true
  | some ks => ks.any fun k => k.has c

theorem run_eq_none_of_firsts {α : Type} {c : CodePoint} {t : Text} {offset : Nat} :
    ∀ (p : Pattern) (ks : List CharClass) (answer : Cursor → Option α),
      p.firsts? = some ks → (∀ k ∈ ks, k.has c = false) → p.run ⟨offset, c :: t⟩ answer = none
  | .each [], _, _, h, _ => by simp [firsts?] at h
  | .each (k :: _), ks, _, h, hks => by
    obtain rfl : [k] = ks := by simpa [firsts?] using h
    simp [run, after?, hks k (by simp)]
  | .atStart, _, _, h, _ => by simp [firsts?] at h
  | .seq p q, ks, answer, h, hks => run_eq_none_of_firsts p ks _ h hks
  | .alt p q, ks, answer, h, hks => by
    cases hp : p.firsts? with
    | none => simp [firsts?, hp] at h
    | some ps =>
      cases hq : q.firsts? with
      | none => simp [firsts?, hp, hq] at h
      | some qs =>
        obtain rfl : ps ++ qs = ks := by simpa [firsts?, hp, hq] using h
        have first : p.run ⟨offset, c :: t⟩ answer = none :=
          run_eq_none_of_firsts p ps answer hp fun k hk => hks k (by simp [hk])
        have second : q.run ⟨offset, c :: t⟩ answer = none :=
          run_eq_none_of_firsts q qs answer hq fun k hk => hks k (by simp [hk])
        simp [run, first, second]
  | .many k least lazy, ks, answer, h, hks => by
    by_cases hl : least = 0
    · simp [firsts?, hl] at h
    · obtain rfl : [k] = ks := by simpa [firsts?, hl] using h
      simp [run, nearest, farthest, hl, hks k (by simp)]
  | .commit p, ks, answer, h, hks => by
    simp [run, run_eq_none_of_firsts p ks some h hks]

/-- A text that cannot start with its first code point does not fit. -/
theorem run_eq_none_of_canStart {α : Type} {p : Pattern} {c : CodePoint} (t : Text) (offset : Nat)
    (answer : Cursor → Option α) (h : p.canStart c = false) :
    p.run ⟨offset, c :: t⟩ answer = none := by
  cases hp : p.firsts? with
  | none => simp [canStart, hp] at h
  | some ks =>
    refine run_eq_none_of_firsts p ks answer hp fun k hk => ?_
    simp only [canStart, hp, List.any_eq_false, Bool.not_eq_true] at h
    exact h k hk

/-- For every small code point whether a text that starts with it may fit; the table is empty
if nothing is known. -/
def starts (p : Pattern) : Array Bool :=
  match p.firsts? with
  | none => #[]
  | some ks => Array.ofFn fun c : Fin 256 => ks.any fun k => k.has c

/-- The table denies only what cannot start. -/
theorem canStart_of_starts {p : Pattern} {c : CodePoint} (h : p.starts.getD c true = false) :
    p.canStart c = false := by
  cases hp : p.firsts? with
  | none => simp [starts, hp] at h
  | some ks =>
    simp only [canStart, hp]
    by_cases hc : c < 256
    · simpa [starts, hp, Array.getD, hc] using h
    · simp [starts, hp, Array.getD, hc] at h

end Pattern

/-! ## 2. Searches -/

/-- A pattern made ready for many texts. -/
structure Search where
  pattern : Pattern
  /-- The table of the pattern. -/
  starts : Array Bool := pattern.starts
  starts_eq : starts = pattern.starts := by rfl

namespace Search

/-- A text that starts with `c` may fit. -/
def mayStart (s : Search) (c : CodePoint) : Bool := s.starts.getD c true

/-- A text that the table denies does not fit. -/
theorem run_eq_none {α : Type} {s : Search} {c : CodePoint} (h : s.mayStart c = false) (t : Text)
    (offset : Nat) (answer : Cursor → Option α) : s.pattern.run ⟨offset, c :: t⟩ answer = none := by
  rw [mayStart, s.starts_eq] at h
  exact Pattern.run_eq_none_of_canStart t offset answer (Pattern.canStart_of_starts h)

end Search

/-- The search for a pattern. -/
def Pattern.search (p : Pattern) : Search := { pattern := p }

end ThreatScan
