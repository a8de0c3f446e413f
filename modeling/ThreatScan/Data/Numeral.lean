/-
# Numerals

Numbers that arrive as texts, in environment variables for the most part.  White space around a
numeral does not count; an underscore may stand between digits; an integer may carry a fraction
of zeros; infinity and the absence of a number have names.
-/
import ThreatScan.Json.Parser
import ThreatScan.Text.Blank

namespace ThreatScan
namespace Numeral

/-- White space proper: a blank other than an information separator. -/
def isSpace (c : CodePoint) : Bool := Text.isBlank c && !(0x1C ≤ c && c ≤ 0x1F)

/-- The text without the white space around it. -/
def strip (t : Text) : Text :=
  ((t.dropWhile isSpace).reverse.dropWhile isSpace).reverse

/-- The text without its sign, and whether that was a minus. -/
def splitSign : Text → Bool × Text
  | 45 :: t => (true, t)
  | 43 :: t => (false, t)
  | t => (false, t)

/-- Two underscores in a row. -/
def hasDoubleUnderscore : Text → Bool
  | a :: b :: t => (a = 95 && b = 95) || hasDoubleUnderscore (b :: t)
  | _ => false

/-- The text without its underscores, provided that each stands inside it and alone. -/
def dropUnderscores? (t : Text) : Option Text :=
  if t.head? = some 95 ∨ t.getLast? = some 95 ∨ hasDoubleUnderscore t then none
  else some (t.filter fun c => c != 95)

/-- The text without a point that only zeros follow. -/
def dropZeroFraction (t : Text) : Text :=
  if t.contains 46 ∧ (t.dropWhile fun c => c != 46).tail.all (fun c => c = 48) then
    t.takeWhile fun c => c != 46
  else t

/-- The integer that a text writes. -/
def integer? (t : Text) : Option Int :=
  let (negative, t) := splitSign (strip t)
  match dropUnderscores? (dropZeroFraction t) with
  | some ds =>
    if ds.isEmpty || !ds.all Json.isDigit then none
    else some (if negative then -(Json.decimalValue ds : Int) else Json.decimalValue ds)
  | none => none

/-- A text in small ASCII letters. -/
def lowerAscii (t : Text) : Text := t.map fun c => if 65 ≤ c ∧ c ≤ 90 then c + 32 else c

/-- The exponent part of a numeral, which may be missing. -/
def exponent? : Text → Option Int
  | [] => some 0
  | c :: t =>
    if c = 101 ∨ c = 69 then
      let (negative, ds) := splitSign t
      if ds.isEmpty || !ds.all Json.isDigit then none
      else some (if negative then -(Json.decimalValue ds : Int) else Json.decimalValue ds)
    else none

/-- The number that a text writes: digits, a point among them or at their end, an exponent. -/
def decimal? (t : Text) : Option Binary64 :=
  let (negative, t) := splitSign t
  let word := lowerAscii t
  if word = "nan" then some .nan
  else if word = "inf" ∨ word = "infinity" then some (.inf negative)
  else
    let (whole, t) := Json.digitsOf t
    let (fraction, t) := match t with
      | 46 :: t => Json.digitsOf t
      | t => ([], t)
    if whole.isEmpty && fraction.isEmpty then none
    else (exponent? t).map fun e =>
      Decimal.ofDecimal negative (Json.decimalValue (whole ++ fraction)) (e - fraction.length)

/-- The number that a text writes, white space and underscores allowed. -/
def number? (t : Text) : Option Binary64 :=
  let t := strip t
  match decimal? t with
  | some x => some x
  | none => if t.contains 95 then (dropUnderscores? t).bind decimal? else none

/-- The truth value that a text names. -/
def boolean? (t : Text) : Option Bool :=
  let word := lowerAscii t
  if ([("0" : Text), "off", "f", "false", "n", "no"]).contains word then some false
  else if ([("1" : Text), "on", "t", "true", "y", "yes"]).contains word then some true
  else none

end Numeral
end ThreatScan
