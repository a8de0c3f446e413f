/-
# Sums of counts

A double holds a count exactly as long as it stays below 2⁵³, and beyond that it is rounded.
`IsCount x n` says how much of the number `n` is left in `x`: all of it below that limit, and
otherwise that it is no lower.  Sums and multiples of counts hand it on, each of them rounded, so a
sum tells for every small bound whether it is exceeded (`IsCount.less_iff`).

`IsRounded` is what a sum of scores always is, a number that has been rounded already: nothing is
rounded again when zero is added or one multiplied.
-/
import ThreatScan.Proofs.Number.Rising

namespace ThreatScan
namespace Binary64

open Rounding

variable {x y : Binary64} {m n : ℕ} {p q : ℚ}

/-! ## 1. Rounded numbers -/

/-- A rounded number that is not negative. -/
def IsRounded (x : Binary64) : Prop := ∃ q : ℚ, 0 ≤ q ∧ x = ofRat q

theorem isRounded_ofNat (n : ℕ) : IsRounded (ofNat n) := ⟨n, Nat.cast_nonneg n, rfl⟩

theorem isRounded_zero : IsRounded 0 := isRounded_ofNat 0

theorem IsRounded.isScore (h : IsRounded x) : IsScore x := by
  obtain ⟨q, hq, rfl⟩ := h
  exact isScore_ofRat hq

/-- A number is rounded once. -/
theorem ofRat_nearest (hq : 0 ≤ q) : ofRat (nearest q) = ofRat q := by
  simp [ofRat, nearest_nearest, not_lt.mpr hq, not_lt.mpr (nearest_nonneg hq)]

/-- A sum or product of rounded numbers is infinite or rounded. -/
theorem IsRounded.cases (h : IsRounded x) :
    x = .inf false ∨ ∃ q : ℚ, 0 ≤ q ∧ x = .finite q ∧ ofRat q = x := by
  obtain ⟨q, hq, rfl⟩ := h
  rcases ofRat_cases hq with hinf | hfinite
  · exact .inl hinf
  · refine .inr ⟨nearest q, nearest_nonneg hq, hfinite, ofRat_nearest hq⟩

theorem IsRounded.add (hx : IsRounded x) (hy : IsRounded y) : IsRounded (x + y) := by
  rcases hx.cases with rfl | ⟨p, hp, rfl, -⟩
  · rcases hy.cases with rfl | ⟨q, hq, rfl, -⟩ <;> exact hx
  · rcases hy.cases with rfl | ⟨q, hq, rfl, -⟩
    · exact hy
    · exact ⟨p + q, add_nonneg hp hq, rfl⟩

theorem IsRounded.mul (hx : IsRounded x) (hq : 0 < q) : IsRounded (.finite q * x) := by
  rcases hx.cases with rfl | ⟨p, hp, rfl, -⟩
  · rw [finite_mul_inf hq]
    exact hx
  · exact ⟨q * p, mul_nonneg hq.le hp, finite_mul_finite hq.le hp⟩

theorem IsRounded.add_zero_eq (h : IsRounded x) : x + 0 = x := by
  rw [zero_eq]
  rcases h.cases with rfl | ⟨q, -, rfl, hq⟩
  · rfl
  · show ofRat (q + 0) = _
    rw [add_zero, hq]

theorem IsRounded.zero_add_eq (h : IsRounded x) : 0 + x = x := by
  rw [Binary64.add_comm, h.add_zero_eq]

theorem IsRounded.one_mul_eq (h : IsRounded x) : 1 * x = x := by
  rw [one_eq]
  rcases h.cases with rfl | ⟨q, hq, rfl, hrounded⟩
  · exact finite_mul_inf one_pos
  · rw [finite_mul_finite zero_le_one hq, one_mul, hrounded]

/-! ## 2. Counts -/

/-- The greatest count that no rounding has to do with. -/
def greatestCount : ℕ := 2 ^ 53 - 1

/-- The double is the count, or no lower than the greatest exact one if the count is above it. -/
structure IsCount (x : Binary64) (n : ℕ) : Prop where
  rounded : IsRounded x
  exact : n ≤ greatestCount → x = .finite n
  large : greatestCount < n → Rises (.finite greatestCount) x

theorem finite_eq_ofNat (h : n ≤ greatestCount) : .finite (n : ℚ) = ofNat n :=
  (ofNat_eq (Nat.lt_of_le_pred (by norm_num) h)).symm

theorem rises_greatestCount (h : greatestCount < n) :
    Rises (.finite greatestCount) (ofNat n) := by
  rw [finite_eq_ofNat le_rfl]
  exact .ofRat (Nat.cast_nonneg _) (Nat.cast_le.mpr h.le)

theorem isCount_ofNat (n : ℕ) : IsCount (ofNat n) n where
  rounded := isRounded_ofNat n
  exact h := (finite_eq_ofNat h).symm
  large := rises_greatestCount

namespace IsCount

variable (hx : IsCount x m)
include hx

/-- **Counts add up.** -/
theorem add (hy : IsCount y n) : IsCount (x + y) (m + n) where
  rounded := hx.rounded.add hy.rounded
  exact h := by
    rw [hx.exact (le_trans (Nat.le_add_right m n) h), hy.exact (le_trans (Nat.le_add_left n m) h),
      finite_eq_ofNat h, ofNat, Nat.cast_add]
    rfl
  large h := by
    rcases lt_or_ge greatestCount m with hm | hm
    · exact (hx.large hm).le_add hy.rounded.isScore
    · rcases lt_or_ge greatestCount n with hn | hn
      · rw [Binary64.add_comm]
        exact (hy.large hn).le_add hx.rounded.isScore
      · have hsum := rises_greatestCount h
        rw [ofNat, Nat.cast_add] at hsum
        rw [hx.exact hm, hy.exact hn]
        exact hsum

/-- A multiple of a count is one. -/
theorem mul {k : ℕ} (hk : 0 < k) : IsCount (.finite k * x) (k * m) where
  rounded := hx.rounded.mul (Nat.cast_pos.mpr hk)
  exact h := by
    rw [hx.exact (le_trans (Nat.le_mul_of_pos_left m hk) h),
      finite_mul_finite (Nat.cast_nonneg k) (Nat.cast_nonneg m), finite_eq_ofNat h, ofNat,
      Nat.cast_mul]
  large h := by
    rcases lt_or_ge greatestCount m with hm | hm
    · have hmultiple : Rises (.finite greatestCount) (.finite k * .finite greatestCount) := by
        rw [finite_mul_finite (Nat.cast_nonneg k) (Nat.cast_nonneg _), finite_eq_ofNat le_rfl]
        exact .ofRat (Nat.cast_nonneg _)
          (le_mul_of_one_le_left (Nat.cast_nonneg _) (Nat.one_le_cast.mpr hk))
      exact hmultiple.trans ((hx.large hm).mul (Nat.cast_pos.mpr hk))
    · rw [hx.exact hm, finite_mul_finite (Nat.cast_nonneg k) (Nat.cast_nonneg m)]
      have hproduct := rises_greatestCount h
      rwa [ofNat, Nat.cast_mul] at hproduct

/-- **A small bound is exceeded by the double if it is exceeded by the count.** -/
theorem less_iff {b : ℕ} (hb : b < greatestCount) : less (ofNat b) x = true ↔ b < m := by
  have hfinite {n : ℕ} : less (.finite b) (.finite n) = true ↔ b < n := by
    simp [less, toRat?]
  rw [← finite_eq_ofNat hb.le]
  rcases lt_or_ge greatestCount m with hm | hm
  · have hless : less (.finite b) x = true :=
      less_of_less_of_atMost (hfinite.mpr hb) (hx.large hm).atMost
    exact iff_of_true hless (hb.trans hm)
  · rw [hx.exact hm, hfinite]

end IsCount

end Binary64
end ThreatScan
