/-
# The entropy of a text is a number that is not negative

A character with the share `p` adds `-p * log p`.  The share lies between zero and one, where
the logarithm is a number and not positive, so every step of the sum can only raise it.

The logarithm is found bit by bit: its whole part is the exponent of the number and the bits
after the point stand for less than one, so below one the exponent, which is negative there,
decides the sign.
-/
import ThreatScan.Proofs.Number.Order
import ThreatScan.Proofs.Scan.Frequencies

namespace ThreatScan

open Binary64 Rounding

/-! ## 1. The logarithm -/

namespace BinaryLog

/-- The bits that are appended stand for a number below one. -/
theorem moreBits_lt : ∀ (n x bits : ℕ), moreBits n x bits < 2 ^ n * (bits + 1)
  | 0, _, bits => by simp [moreBits]
  | n + 1, x, bits => by
    have hpow : 2 ^ (n + 1) * (bits + 1) = 2 ^ n * (2 * bits + 1 + 1) := by ring
    simp only [moreBits, hpow]
    split
    · have h := moreBits_lt n ((x * x) >>> precision) (2 * bits)
      exact h.trans_le (Nat.mul_le_mul_left _ (by omega))
    · exact moreBits_lt n _ (2 * bits + 1)

theorem ofMantissa_lt_one (m : ℚ) : ofMantissa m < 1 := by
  have h := moreBits_lt depth (m * (2 : ℚ) ^ (precision : ℤ)).floor.toNat 0
  have hpos : (0 : ℚ) < (Nat.pow 2 depth : ℕ) := by exact_mod_cast Nat.pow_pos (by omega)
  rw [ofMantissa, Rat.mkRat_eq_div, div_lt_one hpos]
  exact_mod_cast h

/-- The logarithm of a number that is not greater than one is not positive. -/
theorem ofRat_nonpos {q : ℚ} (h₀ : 0 ≤ q) (h₁ : q ≤ 1) : ofRat q ≤ 0 := by
  rcases h₀.eq_or_lt with rfl | hpos
  · have : ofRat 0 = -1 := by decide +kernel
    linarith
  rcases h₁.eq_or_lt with rfl | hlt
  · have : ofRat 1 = 0 := by decide +kernel
    exact this.le
  have hexp : binaryExponent q < 0 := by
    have h := (binaryExponent_spec hpos.ne').1
    rw [abs_of_pos hpos] at h
    have h2 : (2 : ℚ) ^ binaryExponent q < 2 ^ (0 : ℤ) := by simpa using h.trans_lt hlt
    exact (zpow_lt_zpow_iff_right₀ one_lt_two).mp h2
  have hwhole : (binaryExponent q : ℚ) ≤ -1 := by exact_mod_cast Int.le_sub_one_of_lt hexp
  have hbits := ofMantissa_lt_one (q / 2 ^ binaryExponent q)
  simp only [ofRat]
  linarith

end BinaryLog

theorem Binary64.notAbove_binaryLog {p : Binary64} (h₀ : NotBelow 0 p) (h₁ : NotAbove 1 p) :
    NotAbove 0 p.binaryLog := by
  have hlog : BinaryLog.ofRat (p.toRat?.getD 1) ≤ ((0 : ℤ) : ℚ) := by
    have hq : 0 ≤ p.toRat?.getD 1 ∧ p.toRat?.getD 1 ≤ 1 := by
      cases p <;> simp_all [toRat?]
    exact_mod_cast BinaryLog.ofRat_nonpos hq.1 hq.2
  exact_mod_cast notAbove_ofRat (n := 0) (by norm_num) hlog

/-! ## 2. The sum -/

namespace Entropy

/-- A share between zero and one adds a number that is not negative. -/
theorem nonneg_neg_term {p : Binary64} (h : InUnit p) : Nonneg (-term p) := by
  obtain ⟨q, hq, -⟩ := id h
  have hfinite : p.isFinite = true := by
    cases p <;> simp_all [isFinite, toRat?]
  -- No share is zero, but even there the logarithm is a number.
  have hlog : p.toRat? ≠ some 0 ∨ p.binaryLog.isFinite = true := by
    by_cases hzero : p.toRat? = some 0
    · right
      rw [binaryLog, hzero]
      decide +kernel
    · exact .inl hzero
  have hnotAbove : NotAbove 0 (term p) :=
    h.within.1.mul_notAbove (notAbove_binaryLog h.within.1 h.within.2)
  have hne : term p ≠ .nan := mul_ne_nan h.ne_nan (ofRat_ne_nan _) hlog (.inr hfinite)
  exact ⟨hnotAbove.neg, neg_ne_nan hne⟩

theorem inUnit_share {n length : ℕ} (h : length ≠ 0) (hn : n ≤ length) :
    InUnit (ofQuotient n length h) := by
  have hlength : (0 : ℚ) < length := by exact_mod_cast Nat.pos_of_ne_zero h
  have hshare : mkRat n length ≤ ((1 : ℤ) : ℚ) := by
    rw [Rat.mkRat_eq_div, div_le_iff₀ (by exact_mod_cast hlength)]
    exact_mod_cast (by simpa using hn)
  have hle : NotAbove 1 (ofQuotient n length h) := by
    exact_mod_cast notAbove_ofRat (n := 1) (by norm_num) hshare
  exact inUnit_of_within ⟨notBelow_ofQuotient n length h, hle⟩ (ofRat_ne_nan _)

theorem nonneg_ofCounts {length : ℕ} (h : length ≠ 0) {counts : List ℕ}
    (hcounts : ∀ n ∈ counts, n ≤ length) : Nonneg (ofCounts length h counts) := by
  -- The sum so far is never negative, whatever it is.
  suffices hsum : ∀ e, Nonneg e →
      Nonneg (counts.foldl (fun e n => e - term (ofQuotient n length h)) e) by
    exact hsum 0 (nonneg_ofNat 0)
  induction counts with
  | nil => exact fun e he => he
  | cons n counts ih =>
    intro e he
    have hshare : InUnit (ofQuotient n length h) := inUnit_share h (hcounts n (by simp))
    exact ih (fun m hm => hcounts m (by simp [hm])) _ (he.add (nonneg_neg_term hshare))

/-- **The entropy of a text is a number and not negative**, so the range check on it always
passes. -/
theorem nonneg_ofText (t : Text) : Nonneg (ofText t) := by
  unfold ofText
  split
  case isTrue => exact nonneg_ofNat 0
  case isFalse h => exact nonneg_ofCounts h fun n hn => le_length_of_mem_profile hn

end Entropy
end ThreatScan
