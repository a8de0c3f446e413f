/-
# Letter case

Two views of case.  Patterns compare single code points: `lowerOne` is the simple lower-case
mapping and `sameLetter` says when two code points are the same letter in any case.  File names
are lowered as whole words by `lowercase`, where U+0130 becomes two code points and a capital
sigma at the end of a word becomes the final small sigma.
-/
import ThreatScan.Text.Basic
import ThreatScan.Text.CaseTable
import ThreatScan.Text.WordTable

namespace ThreatScan
namespace Text

/-! ## 1. One code point -/

/-- The lower case of `c` by the runs that are left, which ascend. -/
def lowerByRuns (c : CodePoint) : List LowerRun → CodePoint
  | [] => c
  | r :: rs =>
    if c < r.first then c
    else if c ≤ r.last then
      if (c - r.first) % r.step = 0 then r.target + (c - r.first) else lowerByRuns c rs
    else lowerByRuns c rs

/-- The lower case of `c` by the blocks that are left, which ascend. -/
def lowerByBlocks (c : CodePoint) : List LowerBlock → CodePoint
  | [] => c
  | b :: bs =>
    if c < b.first then c else if c ≤ b.last then lowerByRuns c b.runs else lowerByBlocks c bs

/-- The simple lower-case mapping. -/
def lowerOne (c : CodePoint) : CodePoint :=
  if c < 0x80 then (if 65 ≤ c ∧ c ≤ 90 then c + 32 else c) else lowerByBlocks c lowerBlocks

/-- The small letters that compare equal to the small letter `l`, itself first. -/
def letterForms (l : CodePoint) : List CodePoint := l :: (casePartners.lookup l).getD []

/-- The same letter, whatever the case of either. -/
def sameLetter (a b : CodePoint) : Bool := (letterForms (lowerOne a)).contains (lowerOne b)

/-! ## 2. Words -/

/-- `c` lies in one of the ranges, which ascend. -/
def inRanges (c : CodePoint) : List (Nat × Nat) → Bool
  | [] => false
  | (a, b) :: rs => if c < a then false else if c ≤ b then true else inRanges c rs

/-- The first code point that is no mark is a letter of a word. -/
def meetsLetter (t : Text) : Bool :=
  match t.dropWhile (inRanges · skippedRanges) with
  | [] => false
  | c :: _ => inRanges c casedRanges

/-- The capital sigma. -/
def capitalSigma : CodePoint := 0x3A3

/-- The lower case of `c` between the text `before` it, reversed, and the text `after` it. -/
def lowerAt (before : Text) (c : CodePoint) (after : Text) : Text :=
  if c = 0x130 then [0x69, 0x307]
  else if c = capitalSigma then
    [if meetsLetter before && !meetsLetter after then 0x3C2 else 0x3C3]
  else [lowerOne c]

/-- The lower case of the second text, which the first one precedes, reversed. -/
def lowerFrom : Text → Text → Text
  | _, [] => []
  | before, c :: after => lowerAt before c after ++ lowerFrom (c :: before) after

/-- The lower case of a text. -/
def lowercase (t : Text) : Text := lowerFrom [] t

/-- The upper case of an ASCII letter; U+0131 and U+017F have one too. -/
def upperAscii (c : CodePoint) : CodePoint :=
  if 97 ≤ c ∧ c ≤ 122 then c - 32 else if c = 0x131 then 73 else if c = 0x17F then 83 else c

end Text
end ThreatScan
