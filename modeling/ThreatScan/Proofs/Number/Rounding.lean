/-
# Laws of rounding

Rounding to an integer and rounding to a double both keep the order of rational numbers
(`toEven_mono`, `nearest_mono`), are odd functions, and leave the numbers alone that need no
rounding (`toEven_intCast`, `nearest_intCast`).  A bound on a score can therefore be read off
the exact arithmetic.

`nearest` works with a spacing that grows with the number, so its order has to be shown twice:
among numbers of one exponent it is the order of `toEven`, and between exponents the power of
two that separates them is a double itself.
-/
import ThreatScan.Number.Binary64
import Mathlib.Algebra.Order.Field.Power
import Mathlib.Algebra.Order.Floor.Ring
import Mathlib.Data.Rat.Floor
import Mathlib.Tactic.Linarith
import Mathlib.Tactic.Ring

namespace ThreatScan
namespace Rounding

/-! ## 1. To integers -/

theorem magnitude_eq_abs (q : ℚ) : magnitude q = |q| := by
  unfold magnitude
  split
  case isTrue h => exact (abs_of_neg h).symm
  case isFalse h => exact (abs_of_nonneg (not_lt.mp h)).symm

/-- The three cases of rounding, for a number between the integer `n` and its successor. -/
theorem toEven_eq {q : ℚ} {n : ℤ} (h₁ : (n : ℚ) ≤ q) (h₂ : q < n + 1) :
    toEven q = if q - n < 1/2 then n else if 1/2 < q - n then n + 1
      else if n % 2 = 0 then n else n + 1 := by
  have hn : q.floor = n := Int.floor_eq_iff.mpr ⟨h₁, h₂⟩
  simp only [toEven, hn]

theorem toEven_intCast (n : ℤ) : toEven n = n := by
  rw [toEven_eq le_rfl (by linarith)]
  norm_num

/-- An integer is rounded to one of its two neighbours. -/
theorem floor_le_toEven (q : ℚ) : ⌊q⌋ ≤ toEven q ∧ toEven q ≤ ⌊q⌋ + 1 := by
  rw [toEven_eq (Int.floor_le q) (Int.lt_floor_add_one q)]
  split_ifs <;> omega

/-- **Rounding to an integer keeps the order.**  Only two numbers between the same integers need
a look: there the one that is rounded up has the greater fraction. -/
theorem toEven_mono {a b : ℚ} (h : a ≤ b) : toEven a ≤ toEven b := by
  have hfloor : ⌊a⌋ ≤ ⌊b⌋ := Int.floor_mono h
  rcases hfloor.lt_or_eq with hlt | heq
  · have ha := (floor_le_toEven a).2
    have hb := (floor_le_toEven b).1
    omega
  · rw [toEven_eq (Int.floor_le a) (Int.lt_floor_add_one a), heq,
      toEven_eq (Int.floor_le b) (Int.lt_floor_add_one b)]
    split_ifs <;> first | omega | linarith

theorem le_toEven {n : ℤ} {q : ℚ} (h : (n : ℚ) ≤ q) : n ≤ toEven q :=
  toEven_intCast n ▸ toEven_mono h

theorem toEven_le {n : ℤ} {q : ℚ} (h : q ≤ n) : toEven q ≤ n :=
  toEven_intCast n ▸ toEven_mono h

/-- Rounding treats both signs alike: a half goes to the even neighbour on either side. -/
theorem toEven_neg (q : ℚ) : toEven (-q) = -toEven q := by
  have h₁ := Int.floor_le q
  have h₂ := Int.lt_floor_add_one q
  rcases h₁.lt_or_eq with hlt | heq
  · rw [toEven_eq h₁ h₂, toEven_eq (n := -⌊q⌋ - 1) (by push_cast; linarith)
      (by push_cast; linarith)]
    push_cast
    split_ifs <;> first | omega | linarith
  · rw [← heq, toEven_intCast]
    exact_mod_cast toEven_intCast (-⌊q⌋)

/-- Rounding to an integer moves a number by no more than a half. -/
theorem abs_sub_toEven_le (q : ℚ) : |q - toEven q| ≤ 1 / 2 := by
  have hlow := Int.floor_le q
  have hhigh := Int.lt_floor_add_one q
  rw [toEven_eq hlow hhigh, abs_le]
  split_ifs <;> push_cast <;> constructor <;> linarith

/-! ## 2. The exponent of a number -/

/-- **The exponent brackets the number.**  The lengths of numerator and denominator fix the
exponent up to one, and the comparison in `binaryExponent` decides. -/
theorem binaryExponent_spec {q : ℚ} (hq : q ≠ 0) :
    (2 : ℚ) ^ binaryExponent q ≤ |q| ∧ |q| < (2 : ℚ) ^ (binaryExponent q + 1) := by
  have hnum : q.num.natAbs ≠ 0 := by simpa using hq
  have hden : (0 : ℚ) < q.den := by exact_mod_cast q.den_pos
  set a := Nat.log2 q.num.natAbs with ha
  set b := Nat.log2 q.den with hb
  have hn₁ : (2 : ℚ) ^ a ≤ q.num.natAbs := by exact_mod_cast Nat.log2_self_le hnum
  have hn₂ : (q.num.natAbs : ℚ) < 2 ^ (a + 1) := by exact_mod_cast Nat.lt_log2_self
  have hd₁ : (2 : ℚ) ^ b ≤ q.den := by exact_mod_cast Nat.log2_self_le q.den_ne_zero
  have hd₂ : (q.den : ℚ) < 2 ^ (b + 1) := by exact_mod_cast Nat.lt_log2_self
  have habs : |q| = q.num.natAbs / q.den := by
    conv_lhs => rw [← Rat.num_div_den q]
    rw [abs_div, Nat.abs_cast, Nat.cast_natAbs, Int.cast_abs]
  have hlow : (2 : ℚ) ^ ((a : ℤ) - b - 1) ≤ |q| := by
    rw [habs, le_div_iff₀ hden]
    calc (2 : ℚ) ^ ((a : ℤ) - b - 1) * q.den ≤ 2 ^ ((a : ℤ) - b - 1) * 2 ^ (b + 1) := by
          gcongr
      _ = 2 ^ a := by
          rw [← zpow_natCast, ← zpow_natCast, ← zpow_add₀ two_ne_zero]
          congr 1
          push_cast
          ring
      _ ≤ q.num.natAbs := hn₁
  have hhigh : |q| < (2 : ℚ) ^ ((a : ℤ) - b + 1) := by
    rw [habs, div_lt_iff₀ hden]
    calc (q.num.natAbs : ℚ) < 2 ^ (a + 1) := hn₂
      _ = 2 ^ ((a : ℤ) - b + 1) * 2 ^ b := by
          rw [← zpow_natCast, ← zpow_natCast, ← zpow_add₀ two_ne_zero]
          congr 1
          push_cast
          ring
      _ ≤ 2 ^ ((a : ℤ) - b + 1) * q.den := by gcongr
  simp only [binaryExponent, magnitude_eq_abs, ← ha, ← hb]
  split
  case isTrue h => exact ⟨hlow, by simpa using h⟩
  case isFalse h => exact ⟨not_lt.mp h, hhigh⟩

theorem binaryExponent_neg (q : ℚ) : binaryExponent (-q) = binaryExponent q := by
  simp [binaryExponent, magnitude_eq_abs]

/-- A smaller number has no greater exponent. -/
theorem binaryExponent_mono {a b : ℚ} (ha : 0 < a) (h : a ≤ b) :
    binaryExponent a ≤ binaryExponent b := by
  have hb : 0 < b := ha.trans_le h
  have h₁ := (binaryExponent_spec ha.ne').1
  have h₂ := (binaryExponent_spec hb.ne').2
  rw [abs_of_pos ha] at h₁
  rw [abs_of_pos hb] at h₂
  have hlt : (2 : ℚ) ^ binaryExponent a < 2 ^ (binaryExponent b + 1) :=
    (h₁.trans h).trans_lt h₂
  have := (zpow_lt_zpow_iff_right₀ one_lt_two).mp hlt
  omega

/-! ## 3. To doubles -/

/-- The exponent that fixes the spacing around a number. -/
def scale (q : ℚ) : ℤ := max (binaryExponent q) (-1022)

theorem spacing_eq (q : ℚ) : spacing q = 2 ^ (scale q - 52) := rfl

theorem spacing_pos (q : ℚ) : 0 < spacing q := zpow_pos two_pos _

/-- Powers of two are multiples of the spacing. -/
theorem two_pow_mul_spacing (q : ℚ) (k : ℕ) :
    ((2 ^ k : ℤ) : ℚ) * spacing q = 2 ^ (scale q - 52 + k) := by
  rw [spacing_eq, Int.cast_pow, Int.cast_ofNat, ← zpow_natCast, ← zpow_add₀ two_ne_zero, add_comm]

theorem nearest_neg (q : ℚ) : nearest (-q) = -nearest q := by
  have hs : spacing (-q) = spacing q := by simp [spacing, binaryExponent_neg]
  simp only [nearest, hs, neg_div, toEven_neg]
  push_cast
  ring

theorem nearest_zero : nearest 0 = 0 := by
  have h : toEven 0 = 0 := by exact_mod_cast toEven_intCast 0
  simp [nearest, h]

theorem nearest_nonneg {q : ℚ} (h : 0 ≤ q) : 0 ≤ nearest q := by
  have hq : ((0 : ℤ) : ℚ) ≤ q / spacing q := by
    have := div_nonneg h (spacing_pos q).le
    exact_mod_cast this
  have h0 : (0 : ℚ) ≤ toEven (q / spacing q) := by exact_mod_cast le_toEven hq
  exact mul_nonneg h0 (spacing_pos q).le

theorem nearest_nonpos {q : ℚ} (h : q ≤ 0) : nearest q ≤ 0 := by
  have := nearest_nonneg (neg_nonneg.mpr h)
  rw [nearest_neg] at this
  linarith

/-- A multiple of the spacing bounds what is rounded. -/
theorem nearest_le {q : ℚ} (n : ℤ) (h : q ≤ n * spacing q) : nearest q ≤ n * spacing q := by
  have hdiv : q / spacing q ≤ n := (div_le_iff₀ (spacing_pos q)).mpr h
  have hn : (toEven (q / spacing q) : ℚ) ≤ n := by exact_mod_cast toEven_le hdiv
  exact mul_le_mul_of_nonneg_right hn (spacing_pos q).le

theorem le_nearest {q : ℚ} (n : ℤ) (h : n * spacing q ≤ q) : n * spacing q ≤ nearest q := by
  have hdiv : n ≤ q / spacing q := (le_div_iff₀ (spacing_pos q)).mpr h
  have hn : (n : ℚ) ≤ toEven (q / spacing q) := by exact_mod_cast le_toEven hdiv
  exact mul_le_mul_of_nonneg_right hn (spacing_pos q).le

/-- A multiple of the spacing is its own nearest double. -/
theorem nearest_eq {q : ℚ} (n : ℤ) (h : q = n * spacing q) : nearest q = q :=
  le_antisymm ((nearest_le n h.le).trans h.ge) (h.le.trans (le_nearest n h.ge))

/-- The power of two above a number is a bound for its nearest double. -/
theorem nearest_le_zpow {q : ℚ} (hq : 0 < q) : nearest q ≤ 2 ^ (scale q + 1) := by
  have hs : (2 : ℚ) ^ (scale q + 1) = ((2 ^ 53 : ℤ) : ℚ) * spacing q := by
    rw [two_pow_mul_spacing]
    congr 1
    omega
  have hle : q ≤ 2 ^ (scale q + 1) := by
    have h := (binaryExponent_spec hq.ne').2
    rw [abs_of_pos hq] at h
    refine h.le.trans (zpow_le_zpow_right₀ one_le_two ?_)
    exact Int.add_le_add_right (le_max_left _ _) 1
  rw [hs] at hle ⊢
  exact nearest_le _ hle

/-- The power of two below a normal number is a bound for its nearest double. -/
theorem zpow_le_nearest {q : ℚ} (hq : 0 < q) (hn : -1022 ≤ binaryExponent q) :
    2 ^ scale q ≤ nearest q := by
  have hs : (2 : ℚ) ^ scale q = ((2 ^ 52 : ℤ) : ℚ) * spacing q := by
    rw [two_pow_mul_spacing]
    congr 1
    omega
  have hle : 2 ^ scale q ≤ q := by
    have h := (binaryExponent_spec hq.ne').1
    rwa [abs_of_pos hq, ← max_eq_left hn] at h
  rw [hs] at hle ⊢
  exact le_nearest _ hle

theorem nearest_mono_of_pos {a b : ℚ} (ha : 0 < a) (h : a ≤ b) : nearest a ≤ nearest b := by
  have hb : 0 < b := ha.trans_le h
  have hscale : scale a ≤ scale b := max_le_max_right _ (binaryExponent_mono ha h)
  rcases hscale.lt_or_eq with hlt | heq
  · -- The power of two between the two numbers separates their roundings.
    have hnormal : -1022 ≤ binaryExponent b := by
      unfold scale at hlt
      omega
    calc nearest a ≤ 2 ^ (scale a + 1) := nearest_le_zpow ha
      _ ≤ 2 ^ scale b := zpow_le_zpow_right₀ one_le_two hlt
      _ ≤ nearest b := zpow_le_nearest hb hnormal
  · have hs : spacing a = spacing b := by rw [spacing_eq, spacing_eq, heq]
    have hdiv : a / spacing b ≤ b / spacing b := div_le_div_of_nonneg_right h (spacing_pos b).le
    have hround : (toEven (a / spacing b) : ℚ) ≤ toEven (b / spacing b) := by
      exact_mod_cast toEven_mono hdiv
    simp only [nearest, hs]
    exact mul_le_mul_of_nonneg_right hround (spacing_pos b).le

/-- **Rounding to a double keeps the order.** -/
theorem nearest_mono {a b : ℚ} (h : a ≤ b) : nearest a ≤ nearest b := by
  rcases lt_trichotomy a 0 with ha | rfl | ha
  · rcases lt_or_ge b 0 with hb | hb
    · have := nearest_mono_of_pos (neg_pos.mpr hb) (neg_le_neg h)
      rw [nearest_neg, nearest_neg] at this
      linarith
    · exact (nearest_nonpos ha.le).trans (nearest_nonneg hb)
  · rw [nearest_zero]
    exact nearest_nonneg h
  · exact nearest_mono_of_pos ha h

/-- A fraction of a power of two is a double if it has no more than 53 bits. -/
theorem nearest_div {n : ℤ} {k : ℕ} (h : |n| < 2 ^ 53) (hk : k ≤ 1074) :
    nearest (n / 2 ^ k) = n / 2 ^ k := by
  rcases eq_or_ne n 0 with rfl | hn
  · simpa using nearest_zero
  have hpow : (0 : ℚ) < 2 ^ k := pow_pos two_pos k
  have hne : (n / 2 ^ k : ℚ) ≠ 0 := div_ne_zero (by exact_mod_cast hn) hpow.ne'
  have hexponent : binaryExponent (n / 2 ^ k) < 53 - k := by
    have hlow := (binaryExponent_spec hne).1
    have hhigh : |(n / 2 ^ k : ℚ)| < (2 : ℚ) ^ (53 - k : ℤ) := by
      have habs : |(n : ℚ)| < 2 ^ 53 := by exact_mod_cast h
      rw [abs_div, abs_of_pos hpow, zpow_sub₀ two_ne_zero, zpow_natCast]
      exact div_lt_div_of_pos_right (by exact_mod_cast habs) hpow
    exact (zpow_lt_zpow_iff_right₀ one_lt_two).mp (hlow.trans_lt hhigh)
  have hscale : scale (n / 2 ^ k) ≤ 52 - k := by
    unfold scale
    omega
  -- The spacing is a fraction of the power of two, so the multiple of the one is one of the other.
  obtain ⟨j, hj⟩ := Int.eq_ofNat_of_zero_le (sub_nonneg.mpr hscale)
  refine nearest_eq (n * 2 ^ j) ?_
  have hunit : scale (n / 2 ^ k) - 52 + j = -(k : ℤ) := by omega
  rw [Int.cast_mul, mul_assoc, two_pow_mul_spacing, hunit, zpow_neg, zpow_natCast, div_eq_mul_inv]

/-- A double from thirty-two on is a fraction of a power of two. -/
theorem exists_nearest_eq_div {q : ℚ} (h : 32 ≤ q) : ∃ n : ℤ, nearest q = n / 2 ^ 47 := by
  have hq : 0 < q := by linarith
  have hexponent : 5 ≤ binaryExponent q := by
    have hhigh := (binaryExponent_spec hq.ne').2
    rw [abs_of_pos hq] at hhigh
    have hpow : (2 : ℚ) ^ (5 : ℤ) < 2 ^ (binaryExponent q + 1) := by
      refine lt_of_le_of_lt ?_ hhigh
      norm_num
      exact h
    have hlt := (zpow_lt_zpow_iff_right₀ one_lt_two).mp hpow
    omega
  have hscale : 5 ≤ scale q := hexponent.trans (le_max_left _ _)
  obtain ⟨j, hj⟩ := Int.eq_ofNat_of_zero_le (sub_nonneg.mpr hscale)
  refine ⟨toEven (q / spacing q) * 2 ^ j, ?_⟩
  have hspacing : spacing q = ((2 ^ j : ℤ) : ℚ) / 2 ^ 47 := by
    have hunit : scale q - 52 = j - (47 : ℕ) := by
      push_cast
      omega
    rw [spacing_eq, hunit, zpow_sub₀ two_ne_zero, zpow_natCast, zpow_natCast]
    push_cast
    rfl
  rw [Int.cast_mul, mul_div_assoc, ← hspacing]
  rfl

/-- Integers of up to 53 bits are doubles. -/
theorem nearest_intCast {n : ℤ} (h : |n| < 2 ^ 53) : nearest n = n := by
  simpa using nearest_div (k := 0) h (Nat.zero_le _)

end Rounding
end ThreatScan
