/-
# Scores stay in their band

A sampler picks a number between the ends of a band, whatever its state and whatever number it
was fixed to.
-/
import ThreatScan.Scan.Sampler

namespace ThreatScan

/-- A number that is drawn below a bound lies below it. -/
theorem Twister.nextBelow_lt {bound : Nat} (hbound : 0 < bound) (bits : Nat) :
    ∀ (fuel : Nat) (t : Twister), (nextBelow bound bits fuel t).1 < bound
  | 0, _ => hbound
  | fuel + 1, t => by
    simp only [nextBelow]
    split
    case isTrue h => exact h
    case isFalse => exact nextBelow_lt hbound bits fuel _

namespace Sampler

/-- **A sampler keeps to the band**, its ends included. -/
theorem draw_mem {low high : Int} (h : low ≤ high) (s : Sampler) :
    low ≤ (s.draw low high).1 ∧ (s.draw low high).1 ≤ high := by
  cases s with
  | fixed value =>
    simp only [draw]
    omega
  | random state =>
    have hwidth : 0 < (high - low + 1).toNat := by omega
    have hr := Twister.nextBelow_lt hwidth (Nat.log2 (high - low + 1).toNat + 1) attempts state
    simp only [draw]
    omega

theorem score_mem (s : Sampler) (l : Level) :
    l.scoreBand.1 ≤ (s.score l).1 ∧ (s.score l).1 ≤ l.scoreBand.2 :=
  s.draw_mem (by cases l <;> decide)

theorem score_percent (s : Sampler) (l : Level) : 0 ≤ (s.score l).1 ∧ (s.score l).1 ≤ 100 := by
  have h := s.score_mem l
  cases l <;> simp only [Level.scoreBand] at h <;> omega

end Sampler
end ThreatScan
