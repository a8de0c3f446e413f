/-
# Printing JSON

A `Style` fixes what a document leaves open: line breaks, which characters are escaped, and the
layout of numbers.  Quotation marks, backslashes and control characters are always escaped, the
usual five of them by a letter.
-/
import ThreatScan.Json.Basic
import ThreatScan.Number.Decimal

namespace ThreatScan
namespace Json

/-! ## 1. Texts -/

/-- A hexadecimal digit in lower case. -/
def hexDigit (n : Nat) : CodePoint := if n < 10 then 48 + n else 87 + n

/-- The escape `\uXXXX` of a number below 65536. -/
def unicodeEscape (n : Nat) : Text :=
  [92, 117, hexDigit (n / 0x1000 % 16), hexDigit (n / 0x100 % 16), hexDigit (n / 16 % 16),
    hexDigit (n % 16)]

/-- A code point inside a quoted text.  With `ascii`, all but the printable ASCII characters are
escaped, those beyond U+FFFF as a surrogate pair. -/
def escapeOne (ascii : Bool) (c : CodePoint) : Text :=
  if c = 34 then [92, 34]
  else if c = 92 then [92, 92]
  else if c = 8 then [92, 98]
  else if c = 9 then [92, 116]
  else if c = 10 then [92, 110]
  else if c = 12 then [92, 102]
  else if c = 13 then [92, 114]
  else if c < 32 then unicodeEscape c
  else if !ascii || c < 127 then [c]
  else if c < 0x10000 then unicodeEscape c
  else unicodeEscape (0xD800 + (c - 0x10000) / 0x400) ++
    unicodeEscape (0xDC00 + (c - 0x10000) % 0x400)

/-- A text in quotation marks. -/
def quote (ascii : Bool) (t : Text) : Text := 34 :: t.flatMap (escapeOne ascii) ++ [34]

/-! ## 2. Documents -/

/-- How a document is laid out: the width of an indentation step, or a single line; escapes; and
numbers. -/
structure Style where
  indent : Option Nat
  ascii : Bool
  numbers : Decimal.Layout

/-- One line of ASCII. -/
def Style.line : Style := ⟨none, true, Decimal.plain⟩

/-- Indented ASCII. -/
def Style.block : Style := ⟨some 2, true, Decimal.plain⟩

/-- Indented, with every printable character written as it is. -/
def Style.document : Style := ⟨some 2, false, Decimal.compact⟩

/-- What stands between two items at a nesting depth, and also before the first and after the
last one if the style breaks lines. -/
def Style.break (s : Style) (depth : Nat) : Text :=
  match s.indent with
  | none => []
  | some n => 10 :: List.replicate (n * depth) 32

/-- What separates two items at a nesting depth. -/
def Style.comma (s : Style) (depth : Nat) : Text :=
  match s.indent with
  | none => [44, 32]
  | some _ => 44 :: s.break depth

mutual

/-- A value at a nesting depth. -/
def render (s : Style) (depth : Nat) : Json → Text
  | .null => "null"
  | .bool true => "true"
  | .bool false => "false"
  | .int n => Text.ofInt n
  | .float x => s.numbers.render x
  | .text t => quote s.ascii t
  | .array [] => "[]"
  | .array (x :: xs) =>
    91 :: s.break (depth + 1) ++ render s (depth + 1) x ++ renderItems s (depth + 1) xs ++
      s.break depth ++ [93]
  | .object [] => [123, 125]
  | .object ((k, x) :: ms) =>
    123 :: s.break (depth + 1) ++ quote s.ascii k ++ [58, 32] ++ render s (depth + 1) x ++
      renderMembers s (depth + 1) ms ++ s.break depth ++ [125]

/-- Further items of an array, each after a comma. -/
def renderItems (s : Style) (depth : Nat) : List Json → Text
  | [] => []
  | x :: xs => s.comma depth ++ render s depth x ++ renderItems s depth xs

/-- Further members of an object, each after a comma. -/
def renderMembers (s : Style) (depth : Nat) : List (Text × Json) → Text
  | [] => []
  | (k, x) :: ms =>
    s.comma depth ++ quote s.ascii k ++ [58, 32] ++ render s depth x ++ renderMembers s depth ms

end

/-- The text of a document. -/
def print (s : Style) (j : Json) : Text := render s 0 j

end Json
end ThreatScan
