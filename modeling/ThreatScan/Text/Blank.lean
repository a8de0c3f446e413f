/-
# Blank characters

The characters that separate words: the white space of the Unicode Character Database
together with the four information separators U+001C..U+001F.  A zero-width space (U+200B)
and the byte order mark (U+FEFF) are no blanks.
-/
import ThreatScan.Text.Basic

namespace ThreatScan
namespace Text

/-- White space, or an information separator. -/
def isBlank (c : CodePoint) : Bool :=
  (9 ≤ c && c ≤ 13) || (0x1C ≤ c && c ≤ 0x20) ||
    (0x80 ≤ c && (c = 0x85 || c = 0xA0 || c = 0x1680 || (0x2000 ≤ c && c ≤ 0x200A) ||
      c = 0x2028 || c = 0x2029 || c = 0x202F || c = 0x205F || c = 0x3000))

/-- `t` without the blanks in front. -/
def trimLeft (t : Text) : Text := t.dropWhile isBlank

/-- `t` without the blanks at its end. -/
def trimRight (t : Text) : Text := (t.reverse.dropWhile isBlank).reverse

/-- `t` without the blanks around it. -/
def trim (t : Text) : Text := trimRight (trimLeft t)

/-- Nothing but blanks. -/
def isBlankLine (t : Text) : Bool := t.all isBlank

end Text
end ThreatScan
