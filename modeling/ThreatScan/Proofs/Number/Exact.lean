/-
# Exact steps

Rounding changes nothing where the exact result is a double already.  A rounded percentage that is
not below fifty is a fraction with few bits, and so it is not rounded again when fifty is taken off
and the rest is halved (`excess_eq`).  A difference is rounded once (`finite_sub_finite`).
-/
import ThreatScan.Proofs.Number.Order

namespace ThreatScan
namespace Rounding

/-! ## 1. Percentages beyond fifty -/

/-- A rounded percentage that is not below fifty, less fifty and then halved, needs no rounding. -/
theorem nearest_sub_fifty {q x : ℚ} (hx : x = nearest q) (hlow : 50 ≤ x) (hhigh : x ≤ 100) :
    nearest (x - 50) = x - 50 ∧ nearest ((x - 50) / 2) = (x - 50) / 2 := by
  have hq : 32 ≤ q := by
    by_contra hlt
    have hle : q ≤ ((32 : ℤ) : ℚ) := by
      push_cast
      linarith
    have hle' := nearest_mono hle
    rw [nearest_intCast (by norm_num), ← hx] at hle'
    push_cast at hle'
    linarith
  obtain ⟨n, hn⟩ := exists_nearest_eq_div hq
  obtain ⟨m, hm⟩ : ∃ m : ℤ, m = n - 50 * 2 ^ 47 := ⟨_, rfl⟩
  have hmultiple : x - 50 = m / 2 ^ 47 := by
    rw [hx, hn, hm]
    push_cast
    ring
  have hhalf : (x - 50) / 2 = m / 2 ^ 48 := by
    rw [hmultiple]
    ring
  have hsmall : |m| < 2 ^ 53 := by
    have hlow' : (0 : ℚ) ≤ m := by linarith
    have hhigh' : (m : ℚ) ≤ 50 * 2 ^ 47 := by linarith
    rw [abs_of_nonneg (by exact_mod_cast hlow')]
    have hle : m ≤ 50 * 2 ^ 47 := by exact_mod_cast hhigh'
    omega
  rw [hhalf, hmultiple]
  exact ⟨nearest_div hsmall (by norm_num), nearest_div hsmall (by norm_num)⟩

end Rounding

namespace Binary64

open Rounding

/-! ## 2. Differences -/

/-- A double less a smaller one is the rounded difference. -/
theorem finite_sub_finite {p q : ℚ} (hp : q = 0 → nearest p = p) (hqp : q ≤ p) (hp' : p - q ≤ 100) :
    (.finite p : Binary64) - .finite q = .finite (nearest (p - q)) := by
  show Binary64.add (.finite p) (Binary64.neg (.finite q)) = _
  rw [Binary64.neg]
  split
  case isTrue h =>
    rw [h, sub_zero, hp h]
    rfl
  case isFalse =>
    rw [Binary64.add, ← sub_eq_add_neg]
    exact (ofRat_eq_finite (n := 100) (by norm_num) (sub_nonneg.mpr hqp) (by exact_mod_cast hp')).1

/-- A rounded number that is not negative is finite unless it is too large. -/
theorem ofRat_cases {q : ℚ} (h : 0 ≤ q) : ofRat q = .inf false ∨ ofRat q = .finite (nearest q) := by
  simp only [ofRat, not_lt.mpr h, decide_false, Bool.and_false, Bool.false_eq_true, if_false]
  split
  · exact .inl rfl
  · exact .inr rfl

theorem least_finite (p q : ℚ) : least (.finite p) (.finite q) = .finite (min p q) := by
  rcases lt_or_ge q p with h | h
  · simp [least, less, toRat?, h, min_eq_right h.le]
  · simp [least, less, toRat?, not_lt.mpr h, min_eq_left h]

theorem greatest_finite (p q : ℚ) :
    greatest (.finite p) (.finite q) = .finite (max p q) := by
  rcases lt_or_ge p q with h | h
  · simp [greatest, less, toRat?, h, max_eq_right h.le]
  · simp [greatest, less, toRat?, not_lt.mpr h, max_eq_left h]

protected theorem mul_comm (a b : Binary64) : a * b = b * a := by
  show Binary64.mul a b = Binary64.mul b a
  cases a <;> cases b <;>
    simp [Binary64.mul, isNegative, toRat?, bne_comm, Rat.mul_comm, or_comm]

theorem half_eq : (0.5 : Binary64) = .finite (1 / 2) := by decide +kernel

theorem fifty_eq : (50 : Binary64) = .finite 50 := by
  exact_mod_cast ofNat_eq (n := 50) (by omega)

/-- **Half of what a rounded percentage exceeds fifty by** is computed exactly. -/
theorem excess_eq {q x : ℚ} (hx : x = nearest q) (hhigh : x ≤ 100) :
    greatest 0 ((.finite x - 50) * 0.5) = .finite (max 0 ((x - 50) / 2)) := by
  rw [half_eq, fifty_eq, zero_eq]
  rcases le_or_gt 50 x with h | h
  · obtain ⟨hsub, hhalf⟩ := nearest_sub_fifty hx h hhigh
    have hpos : 0 ≤ (x - 50) / 2 := by linarith
    have hproduct : (.finite (x - 50) : Binary64) * .finite (1 / 2) = .finite ((x - 50) / 2) := by
      have hrational : (x - 50) * (1 / 2) = (x - 50) / 2 := by ring
      have hle : (x - 50) / 2 ≤ (100 : ℕ) := by
        push_cast
        linarith
      rw [finite_mul_finite (by linarith) (by norm_num), hrational,
        (ofRat_eq_finite (by norm_num) hpos hle).1, hhalf]
    rw [finite_sub_finite (by norm_num) h (by linarith), hsub, hproduct, greatest_finite]
  · have hneg : NotAbove 0 ((.finite x : Binary64) - .finite 50) := by
      show NotAbove 0 (ofRat (x + -50))
      exact_mod_cast notAbove_ofRat (n := 0) (by norm_num) (by push_cast; linarith)
    have hproduct : NotAbove 0 (((.finite x : Binary64) - .finite 50) * .finite (1 / 2)) := by
      rw [Binary64.mul_comm]
      exact NotBelow.mul_notAbove (by norm_num) hneg
    have hmax : max 0 ((x - 50) / 2) = 0 := max_eq_left (by linarith)
    rw [hmax, greatest, (finite_less _ _).mpr hproduct]
    rfl

end Binary64
end ThreatScan
