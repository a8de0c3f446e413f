/-
# Numbers in decimal

Decimal text for `Binary64`, and back.

* `shortest` finds the fewest digits that read back as the same number and, of those, the ones
  nearest to it.
* `Layout` says how a number is written with those digits; `plain` and `compact` are the two
  layouts in use.
* `fixed`, `scientific` and `general` write a given number of digits.
* `ofDecimal` reads digits and an exponent, rounding once.
-/
import ThreatScan.Number.Binary64
import ThreatScan.Text.Basic

namespace ThreatScan
namespace Decimal

/-! ## 1. The digits of a number -/

/-- `10 ^ e`. -/
def tenTo (e : Int) : Rat := (10 : Rat) ^ e

/-- Moves a first guess at the decimal exponent of the positive `q` to the exponent `e` with
`10 ^ e ≤ q < 10 ^ (e + 1)`; the guess is off by less than `steps`. -/
def settleExponent (q : Rat) : Nat → Int → Int
  | 0, e => e
  | n + 1, e =>
    if q < tenTo e then settleExponent q n (e - 1)
    else if tenTo (e + 1) ≤ q then settleExponent q n (e + 1)
    else e

/-- The exponent of the first decimal digit of the positive `q`. -/
def exponent (q : Rat) : Int :=
  settleExponent q 400 (Rounding.binaryExponent q * 30103 / 100000)

/-- Digits with the place of the first one: `digits * 10 ^ (exponent + 1 - count)`, where `count`
is the number of digits. -/
structure Digits where
  digits : Nat
  count : Nat
  exponent : Int
deriving DecidableEq, Repr

/-- The value that the digits stand for. -/
def Digits.value (d : Digits) : Rat := d.digits * tenTo (d.exponent + 1 - d.count)

/-- `n` read as `count` digits from the exponent `e` on; a carry moves the first digit. -/
def Digits.ofCount (count n : Nat) (e : Int) : Digits :=
  if n = Nat.pow 10 count then ⟨Nat.pow 10 (count - 1), count, e + 1⟩ else ⟨n, count, e⟩

/-- The nearest `count` digits for the positive `q`, a half going to the even digit. -/
def nearestDigits (count : Nat) (q : Rat) : Digits :=
  let e := exponent q
  .ofCount count (Rounding.toEven (q / tenTo (e + 1 - count))).toNat e

/-- The nearer of the two neighbours of `q` among the numbers of `count` digits, provided that
it reads back as `q`; the other one if only that does. -/
def readBack? (count : Nat) (q : Rat) : Option Digits :=
  let e := exponent q
  let grid := q / tenTo (e + 1 - count)
  let near := (Rounding.toEven grid).toNat
  let far := if near ≤ grid then near + 1 else near - 1
  let hit := fun (n : Nat) =>
    let d := Digits.ofCount count n e
    if Binary64.ofRat d.value = .finite q then some d else none
  (hit near).or (hit far)

/-- The first digit count from `count` on with digits that read back as `q`. -/
def shortestFrom (q : Rat) : Nat → Nat → Digits
  | 0, count => nearestDigits count q
  | n + 1, count => (readBack? count q).getD (shortestFrom q n (count + 1))

/-- The fewest digits that read back as the positive `q`; 17 always suffice. -/
def shortest (q : Rat) : Digits := shortestFrom q 16 1

/-! ## 2. Layouts of a shortest form -/

/-- How a number is laid out.  Exponents from `low` up to but not including `high` are written
positionally, the others in scientific form; `padded` gives the exponent a sign and at least
two digits.  A whole number in positional form ends in `.0`. -/
structure Layout where
  low : Int
  high : Int
  padded : Bool
  nan : Text
  infinity : Text
  negInfinity : Text

/-- The layout of values in messages and answers: `1e+16`, `1e-05`. -/
def plain : Layout := ⟨-4, 16, true, "nan", "inf", "-inf"⟩

/-- The layout of numbers in a full report: `1e16`, `0.00001`; infinities have no form. -/
def compact : Layout := ⟨-5, 16, false, "null", "null", "null"⟩

/-- The `count` decimal digits of `n`. -/
def digitText (count n : Nat) : Text := Text.padLeft count 48 (Text.ofNat n)

/-- An exponent after its `e`. -/
def exponentText (padded : Bool) (e : Int) : Text :=
  let digits := Text.ofNat e.natAbs
  if padded then
    101 :: (if e < 0 then 45 else 43) :: Text.padLeft 2 48 digits
  else 101 :: (if e < 0 then 45 :: digits else digits)

/-- The digits with a point after the first, and the exponent. -/
def scientificText (padded : Bool) (d : Digits) : Text :=
  let ds := digitText d.count d.digits
  ds.take 1 ++ (if d.count ≤ 1 then [] else 46 :: ds.drop 1) ++ exponentText padded d.exponent

/-- The digits in positional form, a whole number ending in `.0`. -/
def positionalText (d : Digits) : Text :=
  let ds := digitText d.count d.digits
  if d.exponent < 0 then
    [48, 46] ++ List.replicate (-d.exponent - 1).toNat 48 ++ ds
  else
    let whole := d.exponent.toNat + 1
    if d.count ≤ whole then ds ++ List.replicate (whole - d.count) 48 ++ [46, 48]
    else ds.take whole ++ [46] ++ ds.drop whole

/-- The text of a positive rational number in a layout. -/
def Layout.positive (l : Layout) (q : Rat) : Text :=
  let d := shortest q
  if l.low ≤ d.exponent ∧ d.exponent < l.high then positionalText d
  else scientificText l.padded d

/-- The text of a number in a layout. -/
def Layout.render (l : Layout) : Binary64 → Text
  | .nan => l.nan
  | .inf false => l.infinity
  | .inf true => l.negInfinity
  | .negZero => "-0.0"
  | .finite q => if q = 0 then "0.0" else if q < 0 then 45 :: l.positive (-q) else l.positive q

/-! ## 3. A given number of digits -/

/-- A non-negative number of hundredths, thousandths and so on, with `places` digits after the
point. -/
def placesText (places n : Nat) : Text :=
  let ds := digitText (places + 1) n
  let whole := ds.length - places
  if places = 0 then ds else ds.take whole ++ [46] ++ ds.drop whole

/-- The text without its sign of a number with `places` digits after the point. -/
def fixedMagnitude (places : Nat) (q : Rat) : Text :=
  placesText places (Rounding.toEven (Rounding.magnitude q * (10 : Rat) ^ places)).toNat

/-- The text without its sign: one digit, `places` more after the point, and an exponent. -/
def scientificMagnitude (places : Nat) (q : Rat) : Text :=
  if q = 0 then
    48 :: (if places = 0 then [] else 46 :: List.replicate places 48) ++ exponentText true 0
  else scientificText true (nearestDigits (places + 1) (Rounding.magnitude q))

/-- Drops the zeros at the end of a fraction, and a point that then stands last. -/
def dropZeros (t : Text) : Text :=
  if t.contains 46 then
    let r := t.reverse.dropWhile (· = 48)
    (if r.head? = some 46 then r.drop 1 else r).reverse
  else t

/-- The text without its sign in `digits` significant digits, positional for exponents from -4
up to the number of digits; zeros at the end are dropped unless `keepZeros`. -/
def generalMagnitude (keepZeros : Bool) (digits : Nat) (q : Rat) : Text :=
  let p := if digits = 0 then 1 else digits
  let tidy := fun (t : Text) => if keepZeros then t else dropZeros t
  if q = 0 then tidy (if p ≤ 1 then [48] else 48 :: 46 :: List.replicate (p - 1) 48)
  else
    let d := nearestDigits p (Rounding.magnitude q)
    if -4 ≤ d.exponent ∧ d.exponent < p then
      let ds := digitText d.count d.digits
      if d.exponent < 0 then
        tidy ([48, 46] ++ List.replicate (-d.exponent - 1).toNat 48 ++ ds)
      else
        let whole := d.exponent.toNat + 1
        tidy (ds.take whole ++ (if ds.length ≤ whole then [] else 46 :: ds.drop whole))
    else
      let ds := digitText d.count d.digits
      tidy (ds.take 1 ++ (if d.count ≤ 1 then [] else 46 :: ds.drop 1)) ++
        exponentText true d.exponent

/-- Writes a number by a function on the magnitude of finite ones. -/
def withSign (magnitude : Rat → Text) : Binary64 → Text
  | .nan => "nan"
  | .inf false => "inf"
  | .inf true => "-inf"
  | .negZero => 45 :: magnitude 0
  | .finite q => if q < 0 then 45 :: magnitude q else magnitude q

/-- A number with `places` digits after the point. -/
def fixed (places : Nat) : Binary64 → Text := withSign (fixedMagnitude places)

/-! ## 4. Reading decimals -/

/-- The double nearest to `digits * 10 ^ exponent`.  Exponents far outside the format are not
computed with. -/
def ofDecimal (negative : Bool) (digits : Nat) (exponent : Int) : Binary64 :=
  if digits = 0 then Binary64.zero negative
  else
    let lead : Int := (toString digits).length + exponent
    if lead > 400 then .inf negative
    else if lead < -400 then Binary64.zero negative
    else
      let q := digits * tenTo exponent
      Binary64.ofRat (if negative then -q else q)

end Decimal
end ThreatScan
