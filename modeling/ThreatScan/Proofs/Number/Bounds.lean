/-
# Bounds of doubles

`NotBelow` and `NotAbove` bound a double on either side, as far as it is a number at all.  This
module follows them through the arithmetic of the scores: sums, products and quotients stay
non-negative, what is taken off a bounded number leaves it bounded, and the least and the
greatest of two numbers are cut where they should be.  A range check asks for more, because it
refuses what is no number.

Every step rests on `Rounding.nearest_mono`: a bound that is an integer of up to 53 bits is met
after rounding if it is met before.
-/
import ThreatScan.Data.Decode
import ThreatScan.Proofs.Number.Rounding

namespace ThreatScan
namespace Binary64

open Rounding

/-! ## 1. Small integers -/

theorem lt_overflow {q : ℚ} (h : q < 2 ^ 53) : q < overflow := by
  refine h.trans ?_
  simp only [overflow]
  exact pow_lt_pow_right₀ one_lt_two (by omega)

/-- Integers of up to 53 bits are represented as they are. -/
theorem ofInt_eq {n : ℤ} (h : |n| < 2 ^ 53) : ofInt n = .finite n := by
  have hn : nearest n = n := nearest_intCast h
  have hsmall : magnitude (n : ℚ) < overflow := by
    rw [magnitude_eq_abs]
    exact lt_overflow (by exact_mod_cast h)
  simp only [ofInt, ofRat, hn, not_le.mpr hsmall, if_false]
  rw [if_neg]
  simp only [Bool.and_eq_true, decide_eq_true_eq, not_and, not_lt]
  intro h0
  exact h0.ge

theorem ofNat_eq {n : ℕ} (h : n < 2 ^ 53) : ofNat n = .finite n := by
  have hn : |(n : ℤ)| < 2 ^ 53 := by
    rw [abs_of_nonneg (by omega)]
    exact_mod_cast h
  exact_mod_cast ofInt_eq hn

@[simp] theorem zero_eq : (0 : Binary64) = .finite 0 := by
  exact_mod_cast ofNat_eq (n := 0) (by omega)

@[simp] theorem one_eq : (1 : Binary64) = .finite 1 := by
  exact_mod_cast ofNat_eq (n := 1) (by omega)

theorem hundred_eq : (100 : Binary64) = .finite 100 := by
  exact_mod_cast ofNat_eq (n := 100) (by omega)

/-! ## 2. The two bounds -/

/-- A number that is not below `b`, or no number at all. -/
def NotBelow (b : ℚ) : Binary64 → Prop
  | .nan => True
  | .inf negative => negative = false
  | .negZero => b ≤ 0
  | .finite q => b ≤ q

/-- A number that is not above `b`, or no number at all. -/
def NotAbove (b : ℚ) : Binary64 → Prop
  | .nan => True
  | .inf negative => negative = true
  | .negZero => 0 ≤ b
  | .finite q => q ≤ b

@[simp] theorem notBelow_nan (b : ℚ) : NotBelow b .nan := trivial

@[simp] theorem notBelow_inf (b : ℚ) (s : Bool) : NotBelow b (.inf s) ↔ s = false := Iff.rfl

@[simp] theorem notBelow_negZero (b : ℚ) : NotBelow b .negZero ↔ b ≤ 0 := Iff.rfl

@[simp] theorem notBelow_finite (b q : ℚ) : NotBelow b (.finite q) ↔ b ≤ q := Iff.rfl

@[simp] theorem notAbove_nan (b : ℚ) : NotAbove b .nan := trivial

@[simp] theorem notAbove_inf (b : ℚ) (s : Bool) : NotAbove b (.inf s) ↔ s = true := Iff.rfl

@[simp] theorem notAbove_negZero (b : ℚ) : NotAbove b .negZero ↔ 0 ≤ b := Iff.rfl

@[simp] theorem notAbove_finite (b q : ℚ) : NotAbove b (.finite q) ↔ q ≤ b := Iff.rfl

theorem less_finite (a : Binary64) (b : ℚ) : a.less (.finite b) = false ↔ NotBelow b a := by
  cases a <;> simp [less, toRat?]

theorem finite_less (a : Binary64) (b : ℚ) : less (.finite b) a = false ↔ NotAbove b a := by
  cases a <;> simp [less, toRat?]

theorem less_zero {a : Binary64} : a.less 0 = false ↔ NotBelow 0 a := by
  rw [zero_eq, less_finite]

/-- A number between `b` and `c`, or no number at all. -/
def Within (b c : ℚ) (a : Binary64) : Prop := NotBelow b a ∧ NotAbove c a

/-! ## 3. Rounding keeps the bounds -/

theorem natCast_notBelow_ofRat {q : ℚ} {n : ℕ} (hn : n < 2 ^ 53) (h : n ≤ q) :
    NotBelow n (ofRat q) := by
  have hq : ¬ q < 0 := not_lt.mpr ((Nat.cast_nonneg n).trans h)
  have hnearest : (n : ℚ) ≤ nearest q := by
    have habs : |(n : ℤ)| < 2 ^ 53 := by
      rw [abs_of_nonneg (by omega)]
      exact_mod_cast hn
    have hmono : nearest ((n : ℤ) : ℚ) ≤ nearest q := nearest_mono (by exact_mod_cast h)
    rwa [nearest_intCast habs, Int.cast_natCast] at hmono
  simp only [ofRat, hq, decide_false, Bool.and_false, Bool.false_eq_true, if_false]
  split
  · rfl
  · exact hnearest

theorem notBelow_ofRat {q : ℚ} (h : 0 ≤ q) : NotBelow 0 (ofRat q) := by
  exact_mod_cast natCast_notBelow_ofRat (n := 0) (by norm_num) (by exact_mod_cast h)

theorem notAbove_ofRat {q : ℚ} {n : ℤ} (hn : |n| < 2 ^ 53) (h : q ≤ n) :
    NotAbove n (ofRat q) := by
  have hnearest : nearest q ≤ n := by
    have := nearest_mono h
    rwa [nearest_intCast hn] at this
  have hlarge : (n : ℚ) < overflow := lt_overflow (by exact_mod_cast (abs_lt.mp hn).2)
  simp only [ofRat]
  split
  case isTrue hover =>
    -- A number too large for the format that stays below `n` is negative.
    rw [magnitude_eq_abs] at hover
    have hneg : q < 0 := by
      by_contra hq
      have h0 := nearest_nonneg (not_lt.mp hq)
      rw [abs_of_nonneg h0] at hover
      linarith
    simpa using hneg
  case isFalse hover =>
    split
    case isTrue hzero =>
      simp only [Bool.and_eq_true, decide_eq_true_eq] at hzero
      rw [hzero.1] at hnearest
      exact hnearest
    case isFalse hzero => exact hnearest

theorem ofRat_ne_nan (q : ℚ) : ofRat q ≠ .nan := by
  unfold ofRat
  simp only
  split
  · simp
  · split <;> simp

theorem notBelow_zero (negative : Bool) : NotBelow 0 (zero negative) := by
  cases negative <;> simp [zero]

theorem notAbove_zero {b : ℚ} (hb : 0 ≤ b) (negative : Bool) : NotAbove b (zero negative) := by
  cases negative <;> simpa [zero] using hb

theorem notBelow_ofNat (n : ℕ) : NotBelow 0 (ofNat n) := notBelow_ofRat (Nat.cast_nonneg n)

theorem notBelow_ofQuotient (n d : ℕ) (h : d ≠ 0) : NotBelow 0 (ofQuotient n d h) :=
  notBelow_ofRat (Rat.mkRat_nonneg (Int.natCast_nonneg n) d)

/-! ## 4. Arithmetic -/

/-- A sum of numbers that are not negative is not negative. -/
theorem NotBelow.add {a b : Binary64} (ha : NotBelow 0 a) (hb : NotBelow 0 b) :
    NotBelow 0 (a + b) := by
  show NotBelow 0 (Binary64.add a b)
  cases a <;> cases b <;> simp_all [Binary64.add]
  case finite.finite p q => exact notBelow_ofRat (add_nonneg ha hb)

/-- A product of numbers that are not negative is not negative. -/
theorem NotBelow.mul {a b : Binary64} (ha : NotBelow 0 a) (hb : NotBelow 0 b) :
    NotBelow 0 (a * b) := by
  show NotBelow 0 (Binary64.mul a b)
  cases a <;> cases b <;> simp_all [Binary64.mul, Binary64.isNegative, notBelow_zero, toRat?]
  case inf.finite q =>
    split
    · trivial
    · simpa using hb
  case finite.inf q _ =>
    split
    · trivial
    · simpa using ha
  case finite.finite p q =>
    split
    · exact notBelow_zero _
    · exact notBelow_ofRat (mul_nonneg ha hb)

/-- A quotient by a positive number keeps the sign. -/
theorem NotBelow.div {a : Binary64} {b : ℚ} (ha : NotBelow 0 a) (hb : 0 < b) :
    NotBelow 0 (a / .finite b) := by
  show NotBelow 0 (Binary64.div a (.finite b))
  have hneg : ¬ b < 0 := not_lt.mpr hb.le
  cases a with
  | nan => simp [Binary64.div, toRat?]
  | inf s =>
    obtain rfl : s = false := ha
    simp [Binary64.div, toRat?, isNegative, hneg]
  | negZero => simp [Binary64.div, toRat?, hb.ne', notBelow_zero]
  | finite q =>
    simp only [Binary64.div, toRat?, hb.ne', if_false]
    split
    · exact notBelow_zero _
    · exact notBelow_ofRat (div_nonneg ha hb.le)

theorem NotBelow.neg_notAbove {a : Binary64} {b : ℚ} (ha : NotBelow b a) : NotAbove (-b) (-a) := by
  show NotAbove (-b) (Binary64.neg a)
  cases a with
  | nan => trivial
  | inf s => simpa [Binary64.neg] using ha
  | negZero => simpa [Binary64.neg] using ha
  | finite q =>
    simp only [Binary64.neg]
    split
    case isTrue h =>
      subst h
      simpa using ha
    case isFalse => simpa using ha

theorem NotBelow.neg {a : Binary64} (ha : NotBelow 0 a) : NotAbove 0 (-a) := by
  simpa using ha.neg_notAbove

theorem NotAbove.neg {a : Binary64} (ha : NotAbove 0 a) : NotBelow 0 (-a) := by
  show NotBelow 0 (Binary64.neg a)
  cases a with
  | nan => trivial
  | inf s => simpa [Binary64.neg] using ha
  | negZero => simp [Binary64.neg]
  | finite q =>
    simp only [Binary64.neg]
    split
    · simp
    · simpa using ha

/-- The bounds of two numbers add up to a bound of their sum. -/
theorem NotAbove.add_notAbove {a b : Binary64} {m n : ℤ} (h : |m + n| < 2 ^ 53)
    (ha : NotAbove m a) (hb : NotAbove n b) : NotAbove (m + n : ℤ) (a + b) := by
  show NotAbove (m + n : ℤ) (Binary64.add a b)
  cases a <;> cases b <;> simp_all [Binary64.add]
  case negZero.negZero => exact_mod_cast add_nonneg ha hb
  case negZero.finite q =>
    have hm : (0 : ℚ) ≤ m := by exact_mod_cast ha
    linarith
  case finite.negZero p =>
    have hn : (0 : ℚ) ≤ n := by exact_mod_cast hb
    linarith
  case finite.finite p q =>
    have hle : p + q ≤ ((m + n : ℤ) : ℚ) := by
      push_cast
      linarith
    exact_mod_cast notAbove_ofRat h hle

/-- What is not positive does not raise a number. -/
theorem NotAbove.add {a b : Binary64} {n : ℤ} (hn : |n| < 2 ^ 53) (ha : NotAbove n a)
    (hb : NotAbove 0 b) : NotAbove n (a + b) := by
  simpa using ha.add_notAbove (n := 0) (by simpa using hn) (by exact_mod_cast hb)

/-- What is taken off a number takes at least its lower bound off. -/
theorem NotAbove.sub_notBelow {a b : Binary64} {m n : ℤ} (h : |m - n| < 2 ^ 53)
    (ha : NotAbove m a) (hb : NotBelow n b) : NotAbove (m - n : ℤ) (a - b) := by
  have hneg : NotAbove ((-n : ℤ) : ℚ) (-b) := by
    push_cast
    exact hb.neg_notAbove
  rw [sub_eq_add_neg] at h ⊢
  exact ha.add_notAbove h hneg

/-- What is taken off a number does not raise it. -/
theorem NotAbove.sub {a b : Binary64} {n : ℤ} (hn : |n| < 2 ^ 53) (ha : NotAbove n a)
    (hb : NotBelow 0 b) : NotAbove n (a - b) :=
  ha.add hn hb.neg

/-- Only infinities of different signs have a sum that is no number. -/
theorem add_ne_nan {a b : Binary64} {c d : ℚ} (ha : NotAbove c a) (hb : NotAbove d b)
    (ha' : a ≠ .nan) (hb' : b ≠ .nan) : a + b ≠ .nan := by
  show Binary64.add a b ≠ .nan
  cases a <;> cases b <;> simp_all [Binary64.add, ofRat_ne_nan]

theorem neg_ne_nan {a : Binary64} (h : a ≠ .nan) : -a ≠ .nan := by
  show Binary64.neg a ≠ .nan
  cases a with
  | nan => exact absurd rfl h
  | inf s => simp [Binary64.neg]
  | negZero => simp [Binary64.neg]
  | finite q =>
    simp only [Binary64.neg]
    split <;> simp

theorem sub_ne_nan {a b : Binary64} {c : ℚ} (ha : NotAbove c a) (hb : NotBelow 0 b)
    (ha' : a ≠ .nan) (hb' : b ≠ .nan) : a - b ≠ .nan :=
  add_ne_nan ha hb.neg ha' (neg_ne_nan hb')

/-- A product of numbers of different signs is not positive. -/
theorem NotBelow.mul_notAbove {a b : Binary64} (ha : NotBelow 0 a) (hb : NotAbove 0 b) :
    NotAbove 0 (a * b) := by
  show NotAbove 0 (Binary64.mul a b)
  cases a <;> cases b <;>
    simp_all [Binary64.mul, Binary64.isNegative, notAbove_zero, toRat?]
  case inf.finite q =>
    split
    · trivial
    · rename_i hq
      simpa using lt_of_le_of_ne hb hq
  case finite.inf q _ =>
    split
    · trivial
    · simpa using ha
  case finite.finite p q =>
    split
    · exact notAbove_zero le_rfl _
    · have hle : p * q ≤ ((0 : ℤ) : ℚ) := by
        exact_mod_cast mul_nonpos_of_nonneg_of_nonpos ha hb
      exact_mod_cast notAbove_ofRat (by norm_num) hle

/-- A share between zero and one of `n` is at most `n`. -/
theorem Within.mul_ofNat {a : Binary64} {n : ℕ} (hn : n < 2 ^ 53) (h : Within 0 1 a) :
    Within 0 n (a * ofNat n) := by
  obtain ⟨h₀, h₁⟩ := h
  refine ⟨h₀.mul (notBelow_ofNat n), ?_⟩
  show NotAbove n (Binary64.mul a (ofNat n))
  rw [ofNat_eq hn]
  cases a with
  | nan => trivial
  | inf s => simp_all
  | negZero => exact notAbove_zero (Nat.cast_nonneg n) _
  | finite q =>
    simp only [Binary64.mul]
    split
    · exact notAbove_zero (Nat.cast_nonneg n) _
    · have hle : q * n ≤ ((n : ℤ) : ℚ) := by
        have := mul_le_mul_of_nonneg_right h₁ (Nat.cast_nonneg (α := ℚ) n)
        simpa using this
      have habs : |(n : ℤ)| < 2 ^ 53 := by
        rw [abs_of_nonneg (by omega)]
        exact_mod_cast hn
      exact_mod_cast notAbove_ofRat habs hle

/-! ## 5. Least, greatest and the unit interval -/

/-- Either of two numbers is the least of them. -/
theorem least_cases (a b : Binary64) : least a b = a ∨ least a b = b := by
  unfold least
  split
  · exact .inr rfl
  · exact .inl rfl

theorem greatest_cases (a b : Binary64) : greatest a b = a ∨ greatest a b = b := by
  unfold greatest
  split
  · exact .inr rfl
  · exact .inl rfl

theorem notAbove_least (a : Binary64) (b : ℚ) : NotAbove b (least a (.finite b)) := by
  unfold least
  split
  case isTrue h => simp
  case isFalse h => exact (finite_less a b).mp (by simpa using h)

theorem notBelow_greatest (a : Binary64) (b : ℚ) : NotBelow b (greatest a (.finite b)) := by
  unfold greatest
  split
  case isTrue h => simp
  case isFalse h => exact (less_finite a b).mp (by simpa using h)

theorem NotBelow.least {a b : Binary64} {c : ℚ} (ha : NotBelow c a) (hb : NotBelow c b) :
    NotBelow c (least a b) := by
  rcases least_cases a b with h | h <;> rw [h] <;> assumption

theorem NotAbove.greatest {a b : Binary64} {c : ℚ} (ha : NotAbove c a) (hb : NotAbove c b) :
    NotAbove c (greatest a b) := by
  rcases greatest_cases a b with h | h <;> rw [h] <;> assumption

theorem notBelow_of_less {a : Binary64} {b : ℚ} (h : less (.finite b) a = true) : NotBelow b a := by
  cases a <;> simp_all [less, toRat?]
  case negZero => exact h.le
  case finite q => exact h.le

theorem notBelow_finite_greatest (b : ℚ) (a : Binary64) : NotBelow b (greatest (.finite b) a) := by
  unfold greatest
  split
  case isTrue h => exact notBelow_of_less h
  case isFalse h => simp

theorem within_clampUnit (a : Binary64) : Within 0 1 a.clampUnit := by
  rw [clampUnit, zero_eq, one_eq]
  exact ⟨notBelow_finite_greatest 0 _, .greatest (by simp) (notAbove_least a 1)⟩

/-! ## 6. Integers -/

theorem NotBelow.getD {a : Binary64} (h : NotBelow 0 a) : 0 ≤ a.toRat?.getD 0 := by
  cases a <;> simp_all [toRat?]

theorem NotAbove.getD {a : Binary64} {b : ℚ} (hb : 0 ≤ b) (h : NotAbove b a) :
    a.toRat?.getD 0 ≤ b := by
  cases a <;> simp_all [toRat?]

theorem round_nonneg {a : Binary64} (h : NotBelow 0 a) : 0 ≤ a.round :=
  le_toEven (by exact_mod_cast h.getD)

theorem round_le {a : Binary64} {n : ℕ} (h : NotAbove n a) : a.round ≤ n :=
  toEven_le (by exact_mod_cast h.getD (Nat.cast_nonneg n))

/-- A number keeps integer bounds when it is rounded. -/
theorem Within.round {a : Binary64} {n : ℕ} (h : Within 0 n a) : 0 ≤ a.round ∧ a.round ≤ n :=
  ⟨round_nonneg h.1, round_le h.2⟩

theorem truncate_nonneg {a : Binary64} (h : NotBelow 0 a) : 0 ≤ a.truncate := by
  have h0 := h.getD
  simp only [truncate, not_lt.mpr h0, if_false]
  exact Int.floor_nonneg.mpr h0

theorem truncate_le {a : Binary64} {n : ℕ} (h₀ : NotBelow 0 a) (h : NotAbove n a) :
    a.truncate ≤ n := by
  have hn := h.getD (Nat.cast_nonneg n)
  simp only [truncate, not_lt.mpr h₀.getD, if_false]
  exact (Int.floor_mono hn).trans_eq (Int.floor_natCast n)

end Binary64

/-! ## 7. Range checks of integers -/

namespace Decode.Bounds

/-- An integer passes a check if it keeps the bounds that there are. -/
theorem brokenBy_eq_none_iff {b : Bounds} {n : ℤ} :
    b.brokenBy n = none ↔ (∀ m ∈ b.most, n ≤ m) ∧ ∀ l ∈ b.least, l ≤ n := by
  obtain ⟨least, most⟩ := b
  cases most <;> cases least <;> simp [brokenBy, Option.filter] <;> grind

theorem natural_brokenBy {n : ℤ} : natural.brokenBy n = none ↔ 0 ≤ n := by
  simp [brokenBy_eq_none_iff, natural]

theorem positive_brokenBy {n : ℤ} : positive.brokenBy n = none ↔ 1 ≤ n := by
  simp [brokenBy_eq_none_iff, positive]

theorem tenths_brokenBy {n : ℤ} : tenths.brokenBy n = none ↔ 0 ≤ n ∧ n ≤ 10 := by
  simp [brokenBy_eq_none_iff, tenths, and_comm]

theorem percent_brokenBy {n : ℤ} : percent.brokenBy n = none ↔ 0 ≤ n ∧ n ≤ 100 := by
  simp [brokenBy_eq_none_iff, percent, and_comm]

end Decode.Bounds
end ThreatScan
