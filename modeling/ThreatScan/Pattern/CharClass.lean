/-
# Sets of code points

What one position of a pattern may hold.  A class that ignores case is given by its small
letters and tests the lower case of a code point, so that U+212A counts as `k` and U+0130 as
`i`; `CharClass.letter` adds the letters that have no common lower case, such as U+017F for `s`.
-/
import ThreatScan.Text.Blank
import ThreatScan.Text.Case

namespace ThreatScan

/-- A set of code points. -/
inductive CharClass where
  /-- In one of the inclusive ranges. -/
  | within (ranges : List (CodePoint × CodePoint))
  /-- The lower case is in one of the inclusive ranges. -/
  | lowerWithin (ranges : List (CodePoint × CodePoint))
  /-- None of those listed. -/
  | noneOf (excluded : List CodePoint)
  /-- A blank. -/
  | blank
deriving DecidableEq, Repr

namespace CharClass

/-- `c` lies in one of the inclusive ranges. -/
def covers (c : CodePoint) : List (CodePoint × CodePoint) → Bool
  | [] => false
  | (a, b) :: rs => (a ≤ c && c ≤ b) || covers c rs

/-- Membership. -/
def has : CharClass → CodePoint → Bool
  | .within rs, c => covers c rs
  | .lowerWithin rs, c => covers (Text.lowerOne c) rs
  | .noneOf cs, c => !cs.contains c
  | .blank, c => Text.isBlank c

/-- One code point. -/
def exactly (c : CodePoint) : CharClass := .within [(c, c)]

/-- The code points that are the same letter as `c` in any case. -/
def letter (c : CodePoint) : CharClass :=
  .lowerWithin ((Text.letterForms (Text.lowerOne c)).map fun l => (l, l))

/-- ASCII letters and digits. -/
def alphanumeric : CharClass := .within [(48, 57), (65, 90), (97, 122)]

/-- ASCII letters and digits in any case: the long s and the dotless i count as letters. -/
def alphanumericAnyCase : CharClass := .lowerWithin [(48, 57), (97, 122), (0x131, 0x131), (0x17F, 0x17F)]

/-- Hexadecimal digits in any case. -/
def hexDigit : CharClass := .lowerWithin [(48, 57), (97, 102)]

/-- The two quotation marks. -/
def quote : CharClass := .within [(34, 34), (39, 39)]

/-- Anything but a quotation mark. -/
def notQuote : CharClass := .noneOf [34, 39]

/-- Anything within a line. -/
def inLine : CharClass := .noneOf [10]

end CharClass
end ThreatScan
