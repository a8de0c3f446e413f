/-
# Occurrences of a pattern

The occurrences of a pattern in a text, from the left, none overlapping another.  The search
for the next one starts where the last one ended.  An empty occurrence takes up no place, so a
non-empty one may follow at the same place, but not a second empty one.
-/
import ThreatScan.Pattern.Start

namespace ThreatScan

/-- A piece of text that fits a pattern: where it starts, and the offset where it stops. -/
structure Occurrence where
  start : Cursor
  stop : Nat
deriving DecidableEq, Repr

/-- The piece of text itself, cut to at most `limit` code points. -/
def Occurrence.text (o : Occurrence) (limit : Nat) : Text :=
  o.start.rest.take (min limit (o.stop - o.start.offset))

/-! ## 1. At a cursor -/

namespace Pattern

/-- The occurrences that start at a cursor: the preferred one and, if that is empty, the first
one that is not. -/
def startingAt (p : Pattern) (c : Cursor) : List Occurrence :=
  match p.run c some with
  | none => []
  | some e =>
    if c.offset < e.offset then [⟨c, e.offset⟩]
    else
      match p.run c fun d => if c.offset < d.offset then some d else none with
      | none => [⟨c, e.offset⟩]
      | some d => [⟨c, e.offset⟩, ⟨c, d.offset⟩]

end Pattern

/-! ## 2. In a text -/

namespace Search

/-- The occurrences in the text that follows an offset, of which the first `skip` code points
belong to the last occurrence; `found` holds the earlier ones, the last one first. -/
def occurrencesFrom (s : Search) : Nat → Text → Nat → List Occurrence → List Occurrence
  | offset, [], skip, found =>
    if skip = 0 then ((s.pattern.startingAt ⟨offset, []⟩).reverse ++ found).reverse
    else found.reverse
  | offset, _ :: t, skip + 1, found => occurrencesFrom s (offset + 1) t skip found
  | offset, c :: t, 0, found =>
    if s.mayStart c then
      match s.pattern.startingAt ⟨offset, c :: t⟩ with
      | [] => occurrencesFrom s (offset + 1) t 0 found
      | o :: os =>
        let last := os.getLast?.getD o
        occurrencesFrom s (offset + 1) t (last.stop - offset - 1) (os.reverse ++ o :: found)
    else occurrencesFrom s (offset + 1) t 0 found

/-- The occurrences in a text. -/
def occurrences (s : Search) (t : Text) : List Occurrence := s.occurrencesFrom 0 t 0 []

/-- The number of occurrences. -/
def count (s : Search) (t : Text) : Nat := (s.occurrences t).length

/-- The pattern fits somewhere in the text that follows an offset. -/
def foundFrom (s : Search) : Nat → Text → Bool
  | offset, [] => (s.pattern.run ⟨offset, []⟩ some).isSome
  | offset, c :: t =>
    (s.mayStart c && (s.pattern.run ⟨offset, c :: t⟩ some).isSome) || foundFrom s (offset + 1) t

/-- The pattern fits somewhere in the text. -/
def foundIn (s : Search) (t : Text) : Bool := s.foundFrom 0 t

/-! ## 3. The table loses nothing -/

theorem startingAt_eq_nil {s : Search} {c : CodePoint} (h : s.mayStart c = false) (t : Text)
    (offset : Nat) : s.pattern.startingAt ⟨offset, c :: t⟩ = [] := by
  simp [Pattern.startingAt, run_eq_none h]

/-- The search goes on after the occurrences that start at the first code point. -/
theorem occurrencesFrom_cons (s : Search) (offset : Nat) (c : CodePoint) (t : Text)
    (found : List Occurrence) :
    s.occurrencesFrom offset (c :: t) 0 found =
      match s.pattern.startingAt ⟨offset, c :: t⟩ with
      | [] => s.occurrencesFrom (offset + 1) t 0 found
      | o :: os => s.occurrencesFrom (offset + 1) t ((os.getLast?.getD o).stop - offset - 1)
          (os.reverse ++ o :: found) := by
  rw [occurrencesFrom]
  cases h : s.mayStart c with
  | true => rfl
  | false => simp [startingAt_eq_nil h]

/-- A pattern fits somewhere if it fits at the first place or after it. -/
theorem foundFrom_cons (s : Search) (offset : Nat) (c : CodePoint) (t : Text) :
    s.foundFrom offset (c :: t) =
      ((s.pattern.run ⟨offset, c :: t⟩ some).isSome || s.foundFrom (offset + 1) t) := by
  cases h : s.mayStart c with
  | true => simp [foundFrom, h]
  | false => simp [foundFrom, h, run_eq_none h]

end Search

namespace Pattern

/-- The occurrences of a pattern in a text. -/
def occurrences (p : Pattern) (t : Text) : List Occurrence := p.search.occurrences t

/-- The number of occurrences. -/
def count (p : Pattern) (t : Text) : Nat := p.search.count t

/-- The pattern fits somewhere in a text. -/
def foundIn (p : Pattern) (t : Text) : Bool := p.search.foundIn t

end Pattern
end ThreatScan
