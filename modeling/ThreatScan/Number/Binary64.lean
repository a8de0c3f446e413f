/-
# Double precision numbers

A `Binary64` is a number of the IEEE 754 format: a rational number, one of the two infinities,
the negative zero, or no number at all.  Every operation forms the exact result and rounds it
once with `ofRat`, to the nearest representable number and, half way, to the one with the even
mantissa.  What a score does under rounding can so be read off the rational arithmetic and the
one function `ofRat`.
-/
namespace ThreatScan

/-! ## 1. Rounding rational numbers -/

namespace Rounding

/-- The nearest integer; a half goes to the even neighbour. -/
def toEven (q : Rat) : Int :=
  let n := q.floor
  let r := q - n
  if r < 1/2 then n else if 1/2 < r then n + 1 else if n % 2 = 0 then n else n + 1

/-- The absolute value. -/
def magnitude (q : Rat) : Rat := if q < 0 then -q else q

/-- The exponent `e` with `2 ^ e ≤ |q| < 2 ^ (e + 1)`, for a `q` other than zero. -/
def binaryExponent (q : Rat) : Int :=
  let e : Int := (Nat.log2 q.num.natAbs : Int) - (Nat.log2 q.den : Int)
  if magnitude q < (2 : Rat) ^ e then e - 1 else e

/-- The distance of neighbouring doubles around `q`: 53 bits of mantissa, and never less than
the smallest positive double. -/
def spacing (q : Rat) : Rat := (2 : Rat) ^ (max (binaryExponent q) (-1022) - 52)

/-- The multiple of the spacing nearest to `q`. -/
def nearest (q : Rat) : Rat := toEven (q / spacing q) * spacing q

/-- The first power of two beyond the finite doubles. -/
def overflow : Rat := (2 : Rat) ^ (1024 : Nat)

end Rounding

/-! ## 2. The numbers -/

/-- A double precision number.  `finite 0` is the positive zero. -/
inductive Binary64 where
  | nan
  | inf (negative : Bool)
  | negZero
  | finite (q : Rat)
deriving DecidableEq, Inhabited, Repr

namespace Binary64

/-- The double nearest to a rational number.  A negative number too small for the format
becomes the negative zero. -/
def ofRat (q : Rat) : Binary64 :=
  let r := Rounding.nearest q
  if Rounding.overflow ≤ Rounding.magnitude r then .inf (q < 0)
  else if r = 0 && q < 0 then .negZero
  else .finite r

/-- The double nearest to an integer. -/
def ofInt (n : Int) : Binary64 := ofRat n

/-- The double nearest to a natural number. -/
def ofNat (n : Nat) : Binary64 := ofRat n

instance (n : Nat) : OfNat Binary64 n := ⟨ofNat n⟩

/-- The double nearest to a quotient of natural numbers; nothing is divided by zero. -/
def ofQuotient (n d : Nat) (_ : d ≠ 0) : Binary64 := ofRat (mkRat n d)

instance : OfScientific Binary64 := ⟨fun m s e => ofRat (Rat.ofScientific m s e)⟩

/-- The number, unless it is infinite or none; both zeros are zero. -/
def toRat? : Binary64 → Option Rat
  | .finite q => some q
  | .negZero => some 0
  | .nan => none
  | .inf _ => none

/-- The sign bit. -/
def isNegative : Binary64 → Bool
  | .nan => false
  | .inf negative => negative
  | .negZero => true
  | .finite q => q < 0

/-- Neither infinite nor no number. -/
def isFinite : Binary64 → Bool
  | .finite _ | .negZero => true
  | .nan | .inf _ => false

/-! ## 3. Arithmetic -/

/-- The zero of the given sign. -/
def zero (negative : Bool) : Binary64 := if negative then .negZero else .finite 0

/-- The number with the other sign. -/
def neg : Binary64 → Binary64
  | .nan => .nan
  | .inf s => .inf !s
  | .negZero => .finite 0
  | .finite q => if q = 0 then .negZero else .finite (-q)

instance : Neg Binary64 := ⟨neg⟩

/-- The rounded sum. -/
def add : Binary64 → Binary64 → Binary64
  | .nan, _ => .nan
  | _, .nan => .nan
  | .inf s, .inf t => if s = t then .inf s else .nan
  | .inf s, _ => .inf s
  | _, .inf t => .inf t
  | .negZero, .negZero => .negZero
  | .negZero, .finite b => .finite b
  | .finite a, .negZero => .finite a
  | .finite a, .finite b => ofRat (a + b)

instance : Add Binary64 := ⟨add⟩

/-- The rounded difference. -/
def sub (a b : Binary64) : Binary64 := a + -b

instance : Sub Binary64 := ⟨sub⟩

/-- The rounded product. -/
def mul (a b : Binary64) : Binary64 :=
  let s := a.isNegative != b.isNegative
  match a, b with
  | .nan, _ => .nan
  | _, .nan => .nan
  | .inf _, b => if b.toRat? = some 0 then .nan else .inf s
  | a, .inf _ => if a.toRat? = some 0 then .nan else .inf s
  | .negZero, _ => zero s
  | _, .negZero => zero s
  | .finite p, .finite q => if p = 0 || q = 0 then zero s else ofRat (p * q)

instance : Mul Binary64 := ⟨mul⟩

/-- So many times a number.  Zero stays zero, even if the count is beyond the range of doubles. -/
def times (a : Binary64) (count : Nat) : Binary64 :=
  if a.toRat? = some 0 then a else a * ofNat count

/-- The rounded quotient. -/
def div (a b : Binary64) : Binary64 :=
  let s := a.isNegative != b.isNegative
  match a.toRat?, b.toRat? with
  | some p, some q => if q = 0 then (if p = 0 then .nan else .inf s) else
      if p = 0 then zero s else ofRat (p / q)
  | some _, none => if b = .nan then .nan else zero s
  | none, some _ => if a = .nan then .nan else .inf s
  | none, none => .nan

instance : Div Binary64 := ⟨div⟩

/-- The number without its sign. -/
def abs : Binary64 → Binary64
  | .nan => .nan
  | .inf _ => .inf false
  | .negZero => .finite 0
  | .finite q => .finite (Rounding.magnitude q)

/-! ## 4. Order -/

/-- Strictly less; never so if one side is no number. -/
def less : Binary64 → Binary64 → Bool
  | .nan, _ => false
  | _, .nan => false
  | .inf s, .inf t => s && !t
  | .inf s, _ => s
  | _, .inf t => !t
  | a, b => match a.toRat?, b.toRat? with
    | some p, some q => p < q
    | _, _ => false

/-- Equal as numbers: the zeros are equal, and nothing equals what is no number. -/
def same (a b : Binary64) : Bool :=
  match a, b with
  | .nan, _ => false
  | _, .nan => false
  | .inf s, .inf t => s = t
  | .inf _, _ => false
  | _, .inf _ => false
  | a, b => a.toRat? = b.toRat?

/-- Less or equal as numbers. -/
def atMost (a b : Binary64) : Bool := less a b || same a b

/-- The smaller number, and the first one when neither is smaller. -/
def least (a b : Binary64) : Binary64 := if less b a then b else a

/-- The greater number, and the first one when neither is greater. -/
def greatest (a b : Binary64) : Binary64 := if less a b then b else a

/-- The number moved into the unit interval. -/
def clampUnit (a : Binary64) : Binary64 := greatest 0 (least a 1)

/-! ## 5. Integers -/

/-- The nearest integer, a half going to the even neighbour; zero for what is no rational. -/
def round (a : Binary64) : Int := Rounding.toEven (a.toRat?.getD 0)

/-- The integer part. -/
def truncate (a : Binary64) : Int :=
  let q := a.toRat?.getD 0
  if q < 0 then -(-q).floor else q.floor

/-- The double nearest to the multiple of `10 ^ -places` nearest to the number. -/
def roundPlaces (places : Nat) (a : Binary64) : Binary64 :=
  match a with
  | .finite q =>
    let r := ofRat (mkRat (Rounding.toEven (q * (10 : Rat) ^ (places : Int))) (Nat.pow 10 places))
    if q < 0 && r = .finite 0 then .negZero else r
  | other => other

end Binary64
end ThreatScan
