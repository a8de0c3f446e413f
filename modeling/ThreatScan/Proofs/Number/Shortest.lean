/-
# The shortest form reads back

A double is told from its neighbours by seventeen digits: they miss it by less than the part
`2 ^ -54` of it, and all that close to a double is rounded to it (`nearest_eq_of_close`).  Fewer
digits are taken only if they read back, so what `shortest` finds always does
(`ofRat_value_shortest`).

The digits start at the decimal exponent, for which there is a first guess from the binary one.
Both have the same sign, so the guess is settled within the steps that are allowed (`exponent_spec`).
-/
import ThreatScan.Number.Decimal
import ThreatScan.Proofs.Number.Rounding
import Mathlib.Data.Int.Log
import Mathlib.Tactic.NormNum.Pow

namespace ThreatScan

namespace Rounding

/-! ## 1. What is close to a double -/

/-- The integer that is closer than a half. -/
theorem toEven_eq_of_close {x : ℚ} {n : ℤ} (h : |x - n| < 1 / 2) : toEven x = n := by
  have hround := abs_sub_toEven_le x
  rw [abs_lt] at h
  rw [abs_le] at hround
  have hlow : (n : ℚ) - 1 < toEven x := by linarith
  have hhigh : (toEven x : ℚ) < n + 1 := by linarith
  have hlow' : n - 1 < toEven x := by exact_mod_cast hlow
  have hhigh' : toEven x < n + 1 := by exact_mod_cast hhigh
  omega

/-- The multiple of the spacing that is closer than half of it. -/
theorem nearest_eq_of_close_multiple {v : ℚ} {n : ℤ} (h : |v - n * spacing v| < spacing v / 2) :
    nearest v = n * spacing v := by
  have hs := spacing_pos v
  have hclose : |v / spacing v - n| < 1 / 2 := by
    have hdiv : v / spacing v - n = (v - n * spacing v) / spacing v := by
      rw [sub_div, mul_div_cancel_right₀ _ hs.ne']
    rw [hdiv, abs_div, abs_of_pos hs, div_lt_iff₀ hs]
    linarith
  rw [nearest, toEven_eq_of_close hclose]

theorem lt_two_zpow_scale {q : ℚ} (hq : 0 < q) : q < 2 ^ (scale q + 1) := by
  have h := (binaryExponent_spec hq.ne').2
  rw [abs_of_pos hq] at h
  refine h.trans_le (zpow_le_zpow_right₀ one_le_two ?_)
  exact Int.add_le_add_right (le_max_left _ _) 1

/-- A power of two that is above a number bounds its scale. -/
theorem scale_lt_of_lt {q : ℚ} {k : ℤ} (hq : 0 < q) (hk : -1022 < k) (h : q < 2 ^ k) :
    scale q < k := by
  have hlow := (binaryExponent_spec hq.ne').1
  rw [abs_of_pos hq] at hlow
  have hexponent := (zpow_lt_zpow_iff_right₀ one_lt_two).mp (hlow.trans_lt h)
  exact max_lt hexponent hk

/-- A power of two that is not above a number bounds its scale. -/
theorem le_scale_of_le {q : ℚ} {k : ℤ} (hq : 0 < q) (h : 2 ^ k ≤ q) : k ≤ scale q := by
  have hhigh := (binaryExponent_spec hq.ne').2
  rw [abs_of_pos hq] at hhigh
  have hexponent := (zpow_lt_zpow_iff_right₀ one_lt_two).mp (h.trans_lt hhigh)
  exact (Int.lt_add_one_iff.mp hexponent).trans (le_max_left _ _)

theorem two_zpow_scale (q : ℚ) : (2 : ℚ) ^ scale q = 2 ^ 52 * spacing q := by
  have h := two_pow_mul_spacing q 52
  rw [Nat.cast_ofNat, sub_add_cancel, Int.cast_pow, Int.cast_ofNat] at h
  exact h.symm

/-- The power of two next to the scale is a double. -/
theorem nearest_two_zpow {e : ℤ} (he : -1022 < e) : nearest (2 ^ e) = 2 ^ e := by
  have hpos : (0 : ℚ) < 2 ^ e := zpow_pos two_pos e
  have hscale : scale (2 ^ e) = e := by
    have hle : e ≤ scale (2 ^ e) := le_scale_of_le hpos le_rfl
    have hlt : scale (2 ^ e) < e + 1 :=
      scale_lt_of_lt hpos (by omega) (zpow_lt_zpow_right₀ one_lt_two (by omega))
    omega
  refine nearest_eq (2 ^ 52) ?_
  have h := two_zpow_scale (2 ^ e)
  rw [hscale] at h
  exact_mod_cast h

/-- What was rounded is a double. -/
theorem nearest_nearest_of_pos {q : ℚ} (hq : 0 < q) : nearest (nearest q) = nearest q := by
  rcases (nearest_nonneg hq.le).eq_or_lt with hzero | hpos
  · rw [← hzero, nearest_zero]
  rcases (nearest_le_zpow hq).eq_or_lt with htop | hbelow
  · have hscale : -1022 ≤ scale q := le_max_right _ _
    rw [htop]
    exact nearest_two_zpow (by omega)
  · -- The spacing around the rounded number divides the spacing around the number.
    have hscale : scale (nearest q) ≤ scale q := by
      have hlow : -1022 ≤ scale q := le_max_right _ _
      have hlt := scale_lt_of_lt hpos (by omega) hbelow
      omega
    obtain ⟨k, hk⟩ := Int.eq_ofNat_of_zero_le (sub_nonneg.mpr hscale)
    have hspacing : spacing q = ((2 ^ k : ℤ) : ℚ) * spacing (nearest q) := by
      rw [two_pow_mul_spacing, spacing_eq]
      congr 1
      omega
    refine nearest_eq (toEven (q / spacing q) * 2 ^ k) ?_
    rw [Int.cast_mul, mul_assoc, ← hspacing]
    rfl

theorem nearest_nearest (q : ℚ) : nearest (nearest q) = nearest q := by
  rcases lt_trichotomy q 0 with hq | rfl | hq
  · have h := nearest_nearest_of_pos (neg_pos.mpr hq)
    rwa [nearest_neg, nearest_neg, neg_inj] at h
  · rw [nearest_zero, nearest_zero]
  · exact nearest_nearest_of_pos hq

/-- A positive double is its spacing times a mantissa of 53 bits, or of fewer at the lower end. -/
theorem exists_mantissa {q : ℚ} (hq : 0 < q) (hdouble : nearest q = q) :
    ∃ n : ℤ, q = n * spacing q ∧ n < 2 ^ 53 ∧ (-1022 < scale q → 2 ^ 52 ≤ n) := by
  obtain ⟨n, hn⟩ : ∃ n : ℤ, n * spacing q = q := ⟨_, hdouble⟩
  have hs := spacing_pos q
  refine ⟨n, hn.symm, ?_, fun hnormal => ?_⟩
  · have hbelow := lt_two_zpow_scale hq
    rw [zpow_add_one₀ two_ne_zero, two_zpow_scale] at hbelow
    have h : n * spacing q < ((2 ^ 53 : ℤ) : ℚ) * spacing q := by
      rw [hn]
      push_cast
      linarith
    exact_mod_cast lt_of_mul_lt_mul_right h hs.le
  · have hexponent : binaryExponent q = scale q := by
      unfold scale at hnormal ⊢
      omega
    have hpower := (binaryExponent_spec hq.ne').1
    rw [abs_of_pos hq, hexponent, two_zpow_scale] at hpower
    have h : ((2 ^ 52 : ℤ) : ℚ) * spacing q ≤ n * spacing q := by
      rw [hn]
      exact_mod_cast hpower
    exact_mod_cast le_of_mul_le_mul_right h hs

/-- **All that is close to a double is rounded to it.**  The spacing is the same on both sides,
unless the double is a power of two: below it the spacing is half as wide. -/
theorem nearest_eq_of_close {q v : ℚ} (hq : 0 < q) (hdouble : nearest q = q)
    (hclose : |v - q| < q / 2 ^ 54) : nearest v = q := by
  obtain ⟨n, hn, hn53, hn52⟩ := exists_mantissa hq hdouble
  have hs := spacing_pos q
  have hn53' : (n + 1 : ℚ) ≤ 2 ^ 53 := by exact_mod_cast hn53
  have hstep : (n + 1) * spacing q ≤ 2 ^ 53 * spacing q := mul_le_mul_of_nonneg_right hn53' hs.le
  obtain ⟨hlow, hhigh⟩ := abs_lt.mp hclose
  have hv : 0 < v := by linarith
  have hscale : scale v ≤ scale q := by
    have hlt : v < 2 ^ (scale q + 1) := by
      rw [zpow_add_one₀ two_ne_zero, two_zpow_scale]
      linarith
    have hleast : -1022 < scale q + 1 := Int.lt_add_one_iff.mpr (le_max_right _ _)
    exact Int.lt_add_one_iff.mp (scale_lt_of_lt hv hleast hlt)
  rcases hscale.lt_or_eq with hlt | heq
  · -- Only a power of two has smaller doubles so close to it.
    have hlow52 := hn52 ((le_max_right _ _).trans_lt hlt)
    have hv_lt : v < 2 ^ 52 * spacing q := by
      rw [← two_zpow_scale]
      by_contra hge
      exact absurd (le_scale_of_le hv (not_lt.mp hge)) (not_le.mpr hlt)
    have hhigh52 : n < 2 ^ 52 + 1 := by
      have h : n * spacing q < ((2 ^ 52 + 1 : ℤ) : ℚ) * spacing q := by
        rw [← hn]
        push_cast
        linarith
      exact_mod_cast lt_of_mul_lt_mul_right h hs.le
    obtain rfl : n = 2 ^ 52 := by omega
    push_cast at hn
    have hhalf : (2 : ℚ) ^ (scale q - 1) = 2 ^ 52 * spacing q / 2 := by
      rw [zpow_sub_one₀ two_ne_zero, two_zpow_scale]
      ring
    have hle : scale q - 1 ≤ scale v := by
      refine le_scale_of_le hv ?_
      rw [hhalf]
      linarith
    have hspacing : spacing v = spacing q / 2 := by
      have hunit : scale v - 52 = scale q - 52 - 1 := by omega
      rw [spacing_eq, spacing_eq, hunit, zpow_sub_one₀ two_ne_zero]
      ring
    have hmultiple : ((2 ^ 53 : ℤ) : ℚ) * spacing v = q := by
      rw [hspacing]
      push_cast
      linarith
    rw [← hmultiple]
    refine nearest_eq_of_close_multiple ?_
    rw [hmultiple, hspacing, abs_lt]
    constructor <;> linarith
  · have hspacing : spacing v = spacing q := by rw [spacing_eq, spacing_eq, heq]
    have hmultiple : (n : ℚ) * spacing v = q := by rw [hspacing, ← hn]
    rw [← hmultiple]
    refine nearest_eq_of_close_multiple ?_
    rw [hmultiple, hspacing, abs_lt]
    constructor <;> linarith

end Rounding

namespace Decimal

open Rounding

/-! ## 2. The decimal exponent -/

theorem tenTo_pos (e : ℤ) : 0 < tenTo e := zpow_pos (by norm_num) e

theorem tenTo_lt_iff {a b : ℤ} : tenTo a < tenTo b ↔ a < b :=
  zpow_lt_zpow_iff_right₀ (by norm_num)

theorem tenTo_add (a b : ℤ) : tenTo (a + b) = tenTo a * tenTo b := zpow_add₀ (by norm_num) a b

theorem tenTo_natCast (n : ℕ) : tenTo n = 10 ^ n := zpow_natCast 10 n

/-- The exponent of the first digit of a number. -/
def IsExponent (q : ℚ) (e : ℤ) : Prop := tenTo e ≤ q ∧ q < tenTo (e + 1)

/-- A guess is settled if it is not further off than there are steps. -/
theorem settleExponent_eq {q : ℚ} {e : ℤ} (he : IsExponent q e) :
    ∀ (steps : ℕ) (guess : ℤ), |e - guess| ≤ steps → settleExponent q steps guess = e := by
  intro steps
  induction steps with
  | zero =>
    intro guess h
    have h' := abs_nonpos_iff.mp h
    show guess = e
    omega
  | succ n ih =>
    intro guess h
    rw [abs_le] at h
    unfold settleExponent
    split
    case isTrue hbelow =>
      have hlt := tenTo_lt_iff.mp (he.1.trans_lt hbelow)
      exact ih _ (abs_le.mpr ⟨by omega, by omega⟩)
    case isFalse hnotBelow =>
      have hle := Int.lt_add_one_iff.mp (tenTo_lt_iff.mp ((not_lt.mp hnotBelow).trans_lt he.2))
      split
      case isTrue habove =>
        have hlt := tenTo_lt_iff.mp (habove.trans_lt he.2)
        exact ih _ (abs_le.mpr ⟨by omega, by omega⟩)
      case isFalse hnotAbove =>
        have hle' := Int.lt_add_one_iff.mp (tenTo_lt_iff.mp (he.1.trans_lt (not_le.mp hnotAbove)))
        omega

theorem exists_isExponent {q : ℚ} (hq : 0 < q) : ∃ e, IsExponent q e :=
  ⟨Int.log 10 q, Int.zpow_log_le_self (by norm_num) hq, Int.lt_zpow_succ_log_self (by norm_num) q⟩

/-- A comparison of powers, left to the arithmetic of natural numbers. -/
theorem pow_le_pow_of_nat {a b m n : ℕ} (h : a ^ m ≤ b ^ n) : (a : ℚ) ^ m ≤ (b : ℚ) ^ n := by
  rw [← Nat.cast_pow, ← Nat.cast_pow]
  exact Nat.cast_le.mpr h

theorem overflow_le_tenTo : overflow ≤ tenTo 309 :=
  pow_le_pow_of_nat (a := 2) (b := 10) (m := 1024) (n := 309) (by decide +kernel)

theorem tenTo_le_least : tenTo (-324) ≤ 2 ^ (-1074 : ℤ) := by
  have h : (2 : ℚ) ^ 1074 ≤ 10 ^ 324 :=
    pow_le_pow_of_nat (a := 2) (b := 10) (m := 1074) (n := 324) (by decide +kernel)
  show ((10 : ℚ) ^ 324)⁻¹ ≤ ((2 : ℚ) ^ 1074)⁻¹
  exact inv_anti₀ (pow_pos two_pos _) h

/-- The decimal and the binary exponent of a number in the range of the doubles lie within their
bounds and on the same side of zero. -/
theorem exponents_bounds {q : ℚ} {e : ℤ} (he : IsExponent q e) (hlow : 2 ^ (-1074 : ℤ) ≤ q)
    (hhigh : q < overflow) :
    (-324 ≤ e ∧ e ≤ 308) ∧ (-1074 ≤ binaryExponent q ∧ binaryExponent q ≤ 1023) ∧
      (0 ≤ e ↔ 0 ≤ binaryExponent q) := by
  have hq : 0 < q := (zpow_pos two_pos _).trans_le hlow
  obtain ⟨hb, hb'⟩ := binaryExponent_spec hq.ne'
  rw [abs_of_pos hq] at hb hb'
  have he_most := tenTo_lt_iff.mp (he.1.trans_lt (hhigh.trans_le overflow_le_tenTo))
  have he_least := tenTo_lt_iff.mp ((tenTo_le_least.trans hlow).trans_lt he.2)
  have hb_least := (zpow_lt_zpow_iff_right₀ one_lt_two).mp (hlow.trans_lt hb')
  have hb_most : (2 : ℚ) ^ binaryExponent q < 2 ^ (1024 : ℤ) := hb.trans_lt hhigh
  have hb_most' := (zpow_lt_zpow_iff_right₀ one_lt_two).mp hb_most
  have hdecimal : 0 ≤ e ↔ 1 ≤ q := by
    constructor
    · intro h
      exact (one_le_zpow₀ (by norm_num) h).trans he.1
    · intro h
      have hlt : tenTo 0 < tenTo (e + 1) := h.trans_lt he.2
      exact Int.lt_add_one_iff.mp (tenTo_lt_iff.mp hlt)
  have hbinary : 0 ≤ binaryExponent q ↔ 1 ≤ q := by
    constructor
    · intro h
      exact (one_le_zpow₀ one_le_two h).trans hb
    · intro h
      have hlt : (2 : ℚ) ^ (0 : ℤ) < 2 ^ (binaryExponent q + 1) := h.trans_lt hb'
      exact Int.lt_add_one_iff.mp ((zpow_lt_zpow_iff_right₀ one_lt_two).mp hlt)
  exact ⟨⟨by omega, by omega⟩, ⟨by omega, by omega⟩, hdecimal.trans hbinary.symm⟩

/-- **The exponent brackets the number.** -/
theorem exponent_spec {q : ℚ} (hlow : 2 ^ (-1074 : ℤ) ≤ q) (hhigh : q < overflow) :
    IsExponent q (exponent q) ∧ -324 ≤ exponent q ∧ exponent q ≤ 308 := by
  have hq : 0 < q := (zpow_pos two_pos _).trans_le hlow
  obtain ⟨e, he⟩ := exists_isExponent hq
  obtain ⟨hbounds, hbinary, hsign⟩ := exponents_bounds he hlow hhigh
  have hexponent : exponent q = e := settleExponent_eq he 400 _ (by rw [abs_le]; omega)
  rw [hexponent]
  exact ⟨he, hbounds⟩

/-! ## 3. Digits on a grid -/

/-- Digits that can be written down: as many as they say, with an exponent near the format. -/
structure Digits.IsProper (d : Digits) : Prop where
  count_pos : 1 ≤ d.count
  count_le : d.count ≤ 17
  digits_lt : d.digits < 10 ^ d.count
  le_exponent : -324 ≤ d.exponent
  exponent_le : d.exponent ≤ 309

section Grid

variable {count n : ℕ} {q : ℚ} {e : ℤ}

/-- A carry changes the digits and not their value. -/
theorem value_ofCount (hcount : 1 ≤ count) :
    (Digits.ofCount count n e).value = n * tenTo (e + 1 - count) := by
  unfold Digits.ofCount
  split
  case isTrue hcarry =>
    obtain ⟨k, rfl⟩ : ∃ k, count = k + 1 := ⟨count - 1, by omega⟩
    have hn : (n : ℚ) = 10 ^ k * 10 := by
      rw [hcarry, Nat.pow_eq, Nat.cast_pow, Nat.cast_ofNat, pow_succ]
    have hunit : tenTo (e + 1 + 1 - (k + 1 : ℕ)) = tenTo (e + 1 - (k + 1 : ℕ)) * 10 := by
      have hexponent : e + 1 + 1 - ((k + 1 : ℕ) : ℤ) = e + 1 - (k + 1 : ℕ) + 1 := by omega
      rw [hexponent, tenTo_add]
      exact congrArg _ (zpow_one 10)
    show ((Nat.pow 10 k : ℕ) : ℚ) * tenTo (e + 1 + 1 - (k + 1 : ℕ)) = _
    rw [hn, hunit, Nat.pow_eq, Nat.cast_pow, Nat.cast_ofNat]
    ring
  case isFalse => rfl

theorem isProper_ofCount (hcount : 1 ≤ count) (hcount' : count ≤ 17) (hn : n ≤ 10 ^ count)
    (he : -324 ≤ e) (he' : e ≤ 308) : (Digits.ofCount count n e).IsProper := by
  unfold Digits.ofCount
  split
  case isTrue =>
    have hlt : 10 ^ (count - 1) < 10 ^ count := Nat.pow_lt_pow_right (by omega) (by omega)
    have hexponent : -324 ≤ e + 1 ∧ e + 1 ≤ 309 := by omega
    exact ⟨hcount, hcount', hlt, hexponent.1, hexponent.2⟩
  case isFalse hcarry => exact ⟨hcount, hcount', lt_of_le_of_ne hn hcarry, he, he'.trans (by norm_num)⟩

/-- On the grid of `count` digits a number stays below the carry. -/
theorem grid_lt (he : IsExponent q e) : q / tenTo (e + 1 - count) < (10 ^ count : ℕ) := by
  rw [div_lt_iff₀ (tenTo_pos _), Nat.cast_pow, Nat.cast_ofNat, ← tenTo_natCast, ← tenTo_add,
    add_sub_cancel]
  exact he.2

theorem toEven_grid_le (count : ℕ) (he : IsExponent q e) :
    (toEven (q / tenTo (e + 1 - count))).toNat ≤ 10 ^ count := by
  refine Int.toNat_le.mpr (toEven_le ?_)
  exact_mod_cast (grid_lt he).le

/-- **What reads back is proper.** -/
theorem readBack?_spec {d : Digits} (hcount : 1 ≤ count) (hcount' : count ≤ 17)
    (he : IsExponent q (exponent q)) (hlow : -324 ≤ exponent q) (hhigh : exponent q ≤ 308)
    (h : readBack? count q = some d) : Binary64.ofRat d.value = .finite q ∧ d.IsProper := by
  have hit : ∀ n ≤ 10 ^ count,
      (if Binary64.ofRat (Digits.ofCount count n (exponent q)).value = .finite q then
        some (Digits.ofCount count n (exponent q)) else none) = some d →
      Binary64.ofRat d.value = .finite q ∧ d.IsProper := by
    intro n hn hd
    split at hd
    case isTrue hreads =>
      obtain rfl := Option.some.inj hd
      exact ⟨hreads, isProper_ofCount hcount hcount' hn hlow hhigh⟩
    case isFalse => cases hd
  have hnear := toEven_grid_le count he
  rcases Option.or_eq_some_iff.mp h with hd | ⟨-, hd⟩
  · exact hit _ hnear hd
  · refine hit _ ?_ hd
    split
    case isTrue hle =>
      have hlt := hle.trans_lt (grid_lt he)
      exact_mod_cast hlt
    case isFalse => omega

end Grid

/-! ## 4. The shortest form -/

theorem nearest_of_ofRat {v q : ℚ} (h : Binary64.ofRat v = .finite q) :
    nearest v = q ∧ |q| < overflow := by
  simp only [Binary64.ofRat] at h
  split at h
  · cases h
  case isFalse hsmall =>
    split at h
    · cases h
    · have hnearest := Binary64.finite.inj h
      rw [hnearest, magnitude_eq_abs] at hsmall
      exact ⟨hnearest, not_le.mp hsmall⟩

/-- A positive double is not below the least one and not beyond the greatest. -/
theorem range_of_ofRat {q : ℚ} (hq : 0 < q) (h : Binary64.ofRat q = .finite q) :
    nearest q = q ∧ 2 ^ (-1074 : ℤ) ≤ q ∧ q < overflow := by
  have hdouble := nearest_of_ofRat h
  rw [abs_of_pos hq] at hdouble
  obtain ⟨n, hn, -, -⟩ := exists_mantissa hq hdouble.1
  have hs := spacing_pos q
  have hn1 : (1 : ℚ) ≤ n := by
    have hpos : (0 : ℚ) < n := by
      rw [hn] at hq
      exact pos_of_mul_pos_left hq (spacing_pos _).le
    exact_mod_cast hpos
  have hunit : 2 ^ (-1074 : ℤ) ≤ spacing q := by
    rw [spacing_eq]
    have hscale : -1022 ≤ scale q := le_max_right _ _
    exact zpow_le_zpow_right₀ one_le_two (by omega)
  refine ⟨hdouble.1, ?_, hdouble.2⟩
  calc (2 : ℚ) ^ (-1074 : ℤ) ≤ 1 * spacing q := by rwa [one_mul]
    _ ≤ n * spacing q := mul_le_mul_of_nonneg_right hn1 hs.le
    _ = q := hn.symm

theorem ofRat_of_nearest {v q : ℚ} (hv : 0 < v) (hq : 0 < q) (hsmall : q < overflow)
    (h : nearest v = q) : Binary64.ofRat v = .finite q := by
  simp [Binary64.ofRat, h, magnitude_eq_abs, abs_of_pos hq, not_le.mpr hsmall, not_lt.mpr hv.le]

/-- **Seventeen digits are enough.**  They miss a number by no more than half of a unit in the last
place, which is less than the part `2 ^ -54` of it. -/
theorem ofRat_value_nearestDigits {q : ℚ} (hq : 0 < q) (h : Binary64.ofRat q = .finite q) :
    Binary64.ofRat (nearestDigits 17 q).value = .finite q ∧ (nearestDigits 17 q).IsProper := by
  obtain ⟨hdouble, hlow, hhigh⟩ := range_of_ofRat hq h
  obtain ⟨he, hleast, hmost⟩ := exponent_spec hlow hhigh
  obtain ⟨unit, hunit⟩ : ∃ unit, unit = tenTo (exponent q + 1 - (17 : ℕ)) := ⟨_, rfl⟩
  have hpos : 0 < unit := hunit ▸ tenTo_pos _
  have hq16 : 10 ^ 16 * unit ≤ q := by
    have hsplit : (exponent q : ℤ) = (16 : ℕ) + (exponent q + 1 - (17 : ℕ)) := by omega
    have hle := he.1
    rwa [hsplit, tenTo_add, tenTo_natCast, ← hunit] at hle
  have hround : ((toEven (q / unit)).toNat : ℚ) = toEven (q / unit) := by
    have hnonneg : 0 ≤ toEven (q / unit) :=
      le_toEven (by exact_mod_cast (div_pos hq hpos).le)
    exact_mod_cast Int.toNat_of_nonneg hnonneg
  have hvalue : (nearestDigits 17 q).value = toEven (q / unit) * unit := by
    rw [nearestDigits, value_ofCount (by norm_num), ← hunit, hround]
  have hclose : |(nearestDigits 17 q).value - q| ≤ unit / 2 := by
    have hmiss : (nearestDigits 17 q).value - q = -((q / unit - toEven (q / unit)) * unit) := by
      rw [hvalue, sub_mul, div_mul_cancel₀ _ hpos.ne']
      ring
    rw [hmiss, abs_neg, abs_mul, abs_of_pos hpos]
    have hhalf := mul_le_mul_of_nonneg_right (abs_sub_toEven_le (q / unit)) hpos.le
    linarith
  have hpart : unit / 2 < q / 2 ^ 54 := by linarith
  refine ⟨ofRat_of_nearest ?_ hq hhigh (nearest_eq_of_close hq hdouble (hclose.trans_lt hpart)), ?_⟩
  · have hlow' := (abs_le.mp hclose).1
    linarith
  · exact isProper_ofCount (by norm_num) le_rfl (toEven_grid_le _ he) hleast hmost

/-- **The shortest form reads back.** -/
theorem ofRat_value_shortest {q : ℚ} (hq : 0 < q) (h : Binary64.ofRat q = .finite q) :
    Binary64.ofRat (shortest q).value = .finite q ∧ (shortest q).IsProper := by
  obtain ⟨hdouble, hlow, hhigh⟩ := range_of_ofRat hq h
  obtain ⟨he, hleast, hmost⟩ := exponent_spec hlow hhigh
  suffices hfrom : ∀ n count, 1 ≤ count → count + n = 17 →
      Binary64.ofRat (shortestFrom q n count).value = .finite q ∧
        (shortestFrom q n count).IsProper from hfrom 16 1 le_rfl rfl
  intro n
  induction n with
  | zero =>
    intro count _ hcount
    obtain rfl : count = 17 := hcount
    exact ofRat_value_nearestDigits hq h
  | succ n ih =>
    intro count hcount hsum
    cases hread : readBack? count q with
    | some d =>
      simp only [shortestFrom, hread, Option.getD_some]
      exact readBack?_spec hcount (by omega) he hleast hmost hread
    | none =>
      simp only [shortestFrom, hread, Option.getD_none]
      exact ih (count + 1) (by omega) (by omega)

end Decimal
end ThreatScan
