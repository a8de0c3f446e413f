/-
# Quoted texts

`quoted t` writes a text between quotation marks so that it shows on one line: the mark is the
apostrophe unless the text holds apostrophes and no double quotation mark, and what has no
glyph is written as an escape.  `quotedAscii` also escapes all that is not ASCII.
-/
import ThreatScan.Text.Case
import ThreatScan.Text.HiddenTable

namespace ThreatScan
namespace Text

/-- A hexadecimal digit in lower case. -/
def hexDigit (n : Nat) : CodePoint := if n < 10 then 48 + n else 87 + n

/-- The last `count` hexadecimal digits of a number. -/
def hexDigits : Nat → Nat → Text
  | 0, _ => []
  | count + 1, n => hexDigits count (n / 16) ++ [hexDigit (n % 16)]

/-- The shortest numeric escape of a code point: two, four or eight hexadecimal digits. -/
def numericEscape (c : CodePoint) : Text :=
  if c < 0x100 then 92 :: 120 :: hexDigits 2 c
  else if c < 0x10000 then 92 :: 117 :: hexDigits 4 c
  else 92 :: 85 :: hexDigits 8 c

/-- A code point with no glyph of its own. -/
def isHidden (c : CodePoint) : Bool :=
  if c < 0x80 then c < 32 || c = 127 else inRanges c hiddenRanges

/-- A code point between quotation marks `mark`. -/
def quoteOne (mark : CodePoint) (ascii : Bool) (c : CodePoint) : Text :=
  if c = mark || c = 92 then [92, c]
  else if c = 10 then [92, 110]
  else if c = 13 then [92, 114]
  else if c = 9 then [92, 116]
  else if isHidden c || (ascii && 128 ≤ c) then numericEscape c
  else [c]

/-- The quotation mark for a text. -/
def quoteMark (t : Text) : CodePoint := if t.contains 39 && !t.contains 34 then 34 else 39

/-- The text between quotation marks. -/
def quoted (t : Text) : Text :=
  quoteMark t :: t.flatMap (quoteOne (quoteMark t) false) ++ [quoteMark t]

/-- The text between quotation marks, in ASCII. -/
def quotedAscii (t : Text) : Text :=
  quoteMark t :: t.flatMap (quoteOne (quoteMark t) true) ++ [quoteMark t]

end Text
end ThreatScan
