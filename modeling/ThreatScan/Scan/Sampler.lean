/-
# Sampling a score

The security score of a code scan is a number from the band of its basic level.  A sampler
picks it: always the same number moved into the band, or a pseudo-random one.
-/
import ThreatScan.Level
import ThreatScan.Scan.Twister

namespace ThreatScan

/-- How numbers are picked. -/
inductive Sampler where
  | fixed (value : Int)
  | random (state : Twister)
deriving Repr, DecidableEq

namespace Sampler

/-- A random sampler from a seed. -/
def ofSeed (seed : Int) : Sampler := .random (Twister.ofSeed seed)

/-- How often a random sampler tries for a number in range.  The rule is to try until there is one;
a sampler that has had no luck so often settles for the lowest number. -/
def attempts : Nat := 10000

/-- A number from `low` to `high`, and the sampler for the next one. -/
def draw (low high : Int) : Sampler → Int × Sampler
  | .fixed value => (max low (min value high), .fixed value)
  | .random state =>
    let width := (high - low + 1).toNat
    let (r, state) := Twister.nextBelow width (Nat.log2 width + 1) attempts state
    (low + r, .random state)

end Sampler

/-- The band of security scores that belongs to a security level. -/
def Level.scoreBand : Level → Int × Int
  | .low => (10, 40)
  | .medium => (50, 80)
  | .high => (80, 100)

/-- A security score for a level. -/
def Sampler.score (s : Sampler) (l : Level) : Int × Sampler :=
  s.draw l.scoreBand.1 l.scoreBand.2

end ThreatScan
