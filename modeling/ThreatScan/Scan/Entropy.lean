/-
# Entropy

The Shannon entropy of a text in bits per character.  `profile` counts the occurrences of each
character in the order of first appearance, and the entropy is a sum over these counts alone.
-/
import ThreatScan.Number.BinaryLog
import ThreatScan.Text.Basic

namespace ThreatScan
namespace Entropy

/-- Counts one more occurrence of `c`. -/
def bump (c : CodePoint) : List (CodePoint × Nat) → List (CodePoint × Nat)
  | [] => [(c, 1)]
  | (d, n) :: rest => if c = d then (d, n + 1) :: rest else (d, n) :: bump c rest

/-- The characters of a text in the order of first appearance, each with its number of
occurrences. -/
def profile (t : Text) : List (CodePoint × Nat) := t.foldl (fun counts c => bump c counts) []

/-- What a character with the share `p` adds, as a negative number. -/
def term (p : Binary64) : Binary64 := p * p.binaryLog

/-- The entropy for the counts of the characters in a text of `length` characters. -/
def ofCounts (length : Nat) (h : length ≠ 0) (counts : List Nat) : Binary64 :=
  counts.foldl (fun e n => e - term (Binary64.ofQuotient n length h)) 0

/-- The entropy of a text; an empty one has none. -/
def ofText (t : Text) : Binary64 :=
  if h : t.length = 0 then 0 else ofCounts t.length h ((profile t).map (·.2))

end Entropy
end ThreatScan
