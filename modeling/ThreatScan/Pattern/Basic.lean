/-
# Patterns

A pattern describes the pieces of text that a signature looks for.  `run p c k` tries the ends
of `p` from the cursor `c` in order of preference and gives the first answer of `k`; what
follows a pattern is thus a part of the question, and a repetition gives way when the rest
fails.  `commit p` does not give way: only its first end counts.

The recursion follows the pattern, so every run ends.
-/
import ThreatScan.Pattern.CharClass

namespace ThreatScan

/-- A place in a text: how many code points precede it, and those that follow. -/
structure Cursor where
  offset : Nat
  rest : Text
deriving DecidableEq, Repr

/-- A pattern. -/
inductive Pattern where
  /-- One code point of each class in turn. -/
  | each (ks : List CharClass)
  /-- The empty text at the very start. -/
  | atStart
  /-- The first pattern, then the second. -/
  | seq (p q : Pattern)
  /-- The first pattern or, failing that, the second. -/
  | alt (p q : Pattern)
  /-- At least `least` code points of a class: as many as possible, or as few if `lazy`. -/
  | many (k : CharClass) (least : Nat) (lazy : Bool)
  /-- The first end of a pattern, with no second choice. -/
  | commit (p : Pattern)
deriving DecidableEq, Repr, Inhabited

namespace Pattern

/-! ## 1. Meaning -/

/-- The place after one code point of each class in turn. -/
def after? : List CharClass → Nat → Text → Option Cursor
  | [], offset, t => some ⟨offset, t⟩
  | k :: ks, offset, c :: t => if k.has c then after? ks (offset + 1) t else none
  | _ :: _, _, [] => none

/-- The answer of `answer` at the farthest place that has one, of those after at least `least`
code points of the class; `best` stands for the places before. -/
def farthest {α : Type} (k : CharClass) (answer : Cursor → Option α) (least : Nat) :
    Nat → Text → Option α → Option α
  | offset, [], best => if least = 0 then (answer ⟨offset, []⟩).or best else best
  | offset, c :: t, best =>
    let best := if least = 0 then (answer ⟨offset, c :: t⟩).or best else best
    if k.has c then farthest k answer (least - 1) (offset + 1) t best else best

/-- The first answer of `answer` at a place after at least `least` code points of the class,
the nearest place first. -/
def nearest {α : Type} (k : CharClass) (answer : Cursor → Option α) (least : Nat) :
    Nat → Text → Option α
  | offset, [] => if least = 0 then answer ⟨offset, []⟩ else none
  | offset, c :: t =>
    match if least = 0 then answer ⟨offset, c :: t⟩ else none with
    | some a => some a
    | none => if k.has c then nearest k answer (least - 1) (offset + 1) t else none

/-- The first answer of `answer` at an end of the pattern from a cursor. -/
def run {α : Type} : Pattern → Cursor → (Cursor → Option α) → Option α
  | .each ks, c, answer => (after? ks c.offset c.rest).bind answer
  | .atStart, c, answer => if c.offset = 0 then answer c else none
  | .seq p q, c, answer => p.run c fun d => q.run d answer
  | .alt p q, c, answer =>
    match p.run c answer with
    | some a => some a
    | none => q.run c answer
  | .many k least lazy, c, answer =>
    if lazy then nearest k answer least c.offset c.rest
    else farthest k answer least c.offset c.rest none
  | .commit p, c, answer =>
    match p.run c some with
    | some d => answer d
    | none => none

/-! ## 2. Building patterns -/

/-- The empty text. -/
def empty : Pattern := each []

/-- One code point of a class. -/
def one (k : CharClass) : Pattern := each [k]

/-- One pattern after the other. -/
def sequence : List Pattern → Pattern
  | [] => empty
  | [p] => p
  | p :: ps => seq p (sequence ps)

/-- The first of the patterns that fits; the empty list stands for the empty text. -/
def oneOf : List Pattern → Pattern
  | [] => empty
  | [p] => p
  | p :: ps => alt p (oneOf ps)

/-- A text in any case. -/
def word (t : Text) : Pattern := each (t.map CharClass.letter)

/-- A text in its own case. -/
def exact (t : Text) : Pattern := each (t.map CharClass.exactly)

/-- One of several texts in any case. -/
def words (ts : List Text) : Pattern := oneOf (ts.map word)

/-- Exactly `n` code points of a class. -/
def times (n : Nat) (k : CharClass) : Pattern := each (List.replicate n k)

/-- From `least` to `least + extra` code points of a class, as many as possible. -/
def upTo (least : Nat) (k : CharClass) : Nat → Pattern
  | 0 => times least k
  | extra + 1 => alt (times (least + extra + 1) k) (upTo least k extra)

/-- Any number of code points of a class, as many as possible. -/
def anyOf (k : CharClass) : Pattern := many k 0 false

/-- At least one code point of a class, as many as possible. -/
def someOf (k : CharClass) : Pattern := many k 1 false

/-- Any text within a line, as much as possible. -/
def gap : Pattern := many .inLine 0 false

/-- Any text within a line, as little as possible. -/
def shortGap : Pattern := many .inLine 0 true

/-- Any blanks. -/
def blanks : Pattern := many .blank 0 false

end Pattern
end ThreatScan
