/-
# The binary logarithm

`binaryLog q` is the double nearest to the logarithm of `q` to the base two, found bit by bit:
squaring a number doubles its logarithm, so the bit after the point is set exactly when the
square of a number in `[1, 2)` reaches two.  The loop works on integers that stand for
multiples of `2 ^ -128`.
-/
import ThreatScan.Number.Binary64

namespace ThreatScan
namespace BinaryLog

/-- The number of bits after the point in the working precision. -/
def precision : Nat := 128

/-- The number of bits of the logarithm that are computed. -/
def depth : Nat := 90

/-- Appends `n` bits of the logarithm of `x / 2 ^ precision`, which lies in `[1, 2)`, to `bits`. -/
def moreBits : Nat → Nat → Nat → Nat
  | 0, _, bits => bits
  | n + 1, x, bits =>
    let y := (x * x) >>> precision
    if y >>> (precision + 1) = 0 then moreBits n y (2 * bits) else moreBits n (y >>> 1) (2 * bits + 1)

/-- The logarithm of `m` in `[1, 2)`, cut after `depth` bits. -/
def ofMantissa (m : Rat) : Rat :=
  mkRat (moreBits depth (m * (2 : Rat) ^ (precision : Int)).floor.toNat 0) (Nat.pow 2 depth)

/-- The logarithm of the positive `q` to the base two. -/
def ofRat (q : Rat) : Rat :=
  let e := Rounding.binaryExponent q
  e + ofMantissa (q / (2 : Rat) ^ e)

end BinaryLog

/-- The double nearest to the logarithm to the base two of a positive number. -/
def Binary64.binaryLog (a : Binary64) : Binary64 := Binary64.ofRat (BinaryLog.ofRat (a.toRat?.getD 1))

end ThreatScan
