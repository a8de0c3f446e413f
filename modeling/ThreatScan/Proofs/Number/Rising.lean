/-
# Sums of scores without a bound

How often a pattern is found has no bound, and so a sum of weights may leave the finite doubles.
Such sums are scores: doubles that are not negative, or the infinity above them.  `Rises a b` says
that `a` and `b` are two scores in this order.  Every step from the findings to a pattern score
hands it on: sums, products with a weight, shares and the cut at one.

A score stays where nothing is added, but a sum is rounded.  That a sum does not fall below a part
of it (`Rises.le_add`) takes that the part is rounded already (`nearest_nearest`).
-/
import ThreatScan.Proofs.Number.Exact
import ThreatScan.Proofs.Number.Shortest

namespace ThreatScan
namespace Binary64

open Rounding

variable {a b c d : Binary64} {p q : ℚ}

/-! ## 1. Scores -/

/-- A double that is not negative, or the infinity above; the negative zero is none. -/
inductive IsScore : Binary64 → Prop
  | finite {q : ℚ} (hq : 0 ≤ q) (hdouble : nearest q = q) : IsScore (.finite q)
  | inf : IsScore (.inf false)

/-- Two scores in ascending order. -/
inductive Rises : Binary64 → Binary64 → Prop
  | finite {p q : ℚ} (hp : 0 ≤ p) (hdouble : nearest p = p) (hle : p ≤ q) :
      Rises (.finite p) (.finite q)
  | inf {a : Binary64} (ha : IsScore a) : Rises a (.inf false)

theorem isScore_ofRat (hq : 0 ≤ q) : IsScore (ofRat q) := by
  rcases ofRat_cases hq with h | h
  · rw [h]
    exact .inf
  · rw [h]
    exact .finite (nearest_nonneg hq) (nearest_nearest q)

theorem isScore_ofNat (n : ℕ) : IsScore (ofNat n) := isScore_ofRat (Nat.cast_nonneg n)

theorem isScore_zero : IsScore 0 := isScore_ofNat 0

theorem IsScore.rises (h : IsScore a) : Rises a a := by
  cases h with
  | finite hq hdouble => exact .finite hq hdouble le_rfl
  | inf => exact .inf .inf

theorem IsScore.add (ha : IsScore a) (hb : IsScore b) : IsScore (a + b) := by
  cases ha with
  | inf => cases hb <;> exact .inf
  | finite hp =>
    cases hb with
    | inf => exact .inf
    | finite hq => exact isScore_ofRat (add_nonneg hp hq)

protected theorem add_comm (a b : Binary64) : a + b = b + a := by
  show Binary64.add a b = Binary64.add b a
  rcases a with _ | s | _ | p <;> rcases b with _ | t | _ | q <;> try rfl
  · cases s <;> cases t <;> rfl
  · exact congrArg Binary64.ofRat (add_comm p q)

/-- A multiple of the infinity is infinite. -/
theorem finite_mul_inf (hq : 0 < q) : (.finite q : Binary64) * .inf false = .inf false := by
  show Binary64.mul _ _ = _
  simp [Binary64.mul, toRat?, hq.ne', isNegative, hq.le]

/-- A finite number above zero is a positive rational number. -/
theorem exists_finite (hfinite : a.isFinite = true) (hpos : less 0 a = true) :
    ∃ q : ℚ, 0 < q ∧ a = .finite q := by
  cases a with
  | finite q =>
    rw [zero_eq] at hpos
    exact ⟨q, by simpa [less, toRat?] using hpos, rfl⟩
  | nan => cases hfinite
  | inf negative => cases hfinite
  | negZero => simp [less, toRat?] at hpos

/-! ## 2. The order is kept -/

namespace Rises

theorem isScore (h : Rises a b) : IsScore a := by
  cases h with
  | finite hp hdouble => exact .finite hp hdouble
  | inf ha => exact ha

theorem trans (h : Rises a b) (h' : Rises b c) : Rises a c := by
  cases h' with
  | inf => exact .inf h.isScore
  | finite _ _ hle' =>
    cases h with
    | finite hp hdouble hle => exact .finite hp hdouble (hle.trans hle')

theorem atMost (h : Rises a b) : a.atMost b = true := by
  cases h with
  | finite _ _ hle => exact atMost_finite.mpr hle
  | inf ha =>
    cases ha <;> simp [atMost_iff, place, -WithBot.coe_top]

/-- Rounding keeps the order beyond the finite doubles, too. -/
theorem ofRat (hp : 0 ≤ p) (hle : p ≤ q) : Rises (ofRat p) (ofRat q) := by
  have hq : 0 ≤ q := hp.trans hle
  rcases ofRat_cases hq with h | h
  · rw [h]
    exact .inf (isScore_ofRat hp)
  · have hsmall : magnitude (nearest q) < overflow := by
      by_contra hlarge
      rw [Binary64.ofRat, if_pos (not_lt.mp hlarge)] at h
      cases h
    rw [magnitude_eq_abs, abs_of_nonneg (nearest_nonneg hq)] at hsmall
    have hfinite : Binary64.ofRat p = .finite (nearest p) := by
      have hbelow : magnitude (nearest p) < overflow := by
        rw [magnitude_eq_abs, abs_of_nonneg (nearest_nonneg hp)]
        exact (nearest_mono hle).trans_lt hsmall
      simp [Binary64.ofRat, not_le.mpr hbelow, not_lt.mpr hp]
    rw [h, hfinite]
    exact .finite (nearest_nonneg hp) (nearest_nearest p) (nearest_mono hle)

theorem ofInt {m n : ℤ} (hm : 0 ≤ m) (hle : m ≤ n) : Rises (ofInt m) (ofInt n) :=
  Rises.ofRat (Int.cast_nonneg hm) (Int.cast_le.mpr hle)

theorem add (h : Rises a b) (h' : Rises c d) : Rises (a + c) (b + d) := by
  have hscore : IsScore (a + c) := h.isScore.add h'.isScore
  cases h with
  | inf => cases h' <;> exact .inf hscore
  | finite hp _ hle =>
    cases h' with
    | inf => exact .inf hscore
    | finite hr _ hle' => exact .ofRat (add_nonneg hp hr) (add_le_add hle hle')

/-- **A score does not fall when another one is added.** -/
theorem le_add (h : Rises a b) (hc : IsScore c) : Rises a (b + c) := by
  cases h with
  | inf ha => cases hc <;> exact .inf ha
  | @finite p q hp hdouble hle =>
    cases hc with
    | inf => exact .inf (.finite hp hdouble)
    | @finite r hr =>
      have hrounded : .finite p = Binary64.ofRat p ∨ Binary64.ofRat p = .inf false := by
        rcases ofRat_cases hp with h | h
        · exact .inr h
        · exact .inl (by rw [h, hdouble])
      have hsum : Rises (Binary64.ofRat p) (.finite q + .finite r) :=
        .ofRat hp (hle.trans (le_add_of_nonneg_right hr))
      rcases hrounded with hrounded | hrounded
      · rwa [hrounded]
      · -- Where rounding leaves the finite doubles, so does the sum.
        rw [hrounded] at hsum
        cases hsum' : (.finite q + .finite r : Binary64) <;> rw [hsum'] at hsum <;> cases hsum
        exact .inf (.finite hp hdouble)

/-- A product with a positive number keeps the order. -/
theorem mul (h : Rises a b) (hq : 0 < q) : Rises (.finite q * a) (.finite q * b) := by
  have hinf : (.finite q : Binary64) * .inf false = .inf false := finite_mul_inf hq
  have hfinite {p : ℚ} (hp : 0 ≤ p) : (.finite q : Binary64) * .finite p = Binary64.ofRat (q * p) :=
    finite_mul_finite hq.le hp
  cases h with
  | inf ha =>
    rw [hinf]
    cases ha with
    | finite hp =>
      rw [hfinite hp]
      exact .inf (isScore_ofRat (mul_nonneg hq.le hp))
    | inf =>
      rw [hinf]
      exact .inf .inf
  | finite hp _ hle =>
    rw [hfinite hp, hfinite (hp.trans hle)]
    exact .ofRat (mul_nonneg hq.le hp) (mul_le_mul_of_nonneg_left hle hq.le)

/-- A share of a score keeps the order. -/
theorem div (h : Rises a b) (hq : 0 < q) : Rises (a / .finite q) (b / .finite q) := by
  have hinf : (.inf false : Binary64) / .finite q = .inf false := by
    show Binary64.div _ _ = _
    simp [Binary64.div, toRat?, isNegative, hq.le]
  have hfinite {p : ℚ} (hp : 0 ≤ p) :
      (.finite p : Binary64) / .finite q = Binary64.ofRat (p / q) := by
    show Binary64.div _ _ = _
    simp only [Binary64.div, toRat?, hq.ne', if_false, isNegative, not_lt.mpr hp, not_lt.mpr hq.le,
      decide_false]
    split
    case isTrue h =>
      obtain ⟨hzero, -, -⟩ := ofRat_eq_finite (n := 0) (by norm_num) le_rfl (by norm_num)
      rw [h, zero_div, hzero, nearest_zero]
      rfl
    case isFalse => rfl
  cases h with
  | inf ha =>
    rw [hinf]
    cases ha with
    | finite hp =>
      rw [hfinite hp]
      exact .inf (isScore_ofRat (div_nonneg hp hq.le))
    | inf =>
      rw [hinf]
      exact .inf .inf
  | finite hp _ hle =>
    rw [hfinite hp, hfinite (hp.trans hle)]
    exact .ofRat (div_nonneg hp hq.le) (div_le_div_of_nonneg_right hle hq.le)

/-- A cut keeps the order. -/
theorem least_atMost (h : Rises a b) (hc : c ≠ .nan) :
    (least a c).atMost (least b c) = true := by
  obtain ⟨ha, hb, hle⟩ := atMost_iff.mp h.atMost
  rw [atMost_iff, place_least ha hc, place_least hb hc]
  exact ⟨least_ne_nan ha hc, least_ne_nan hb hc, min_le_min_right _ hle⟩

end Rises

end Binary64
end ThreatScan
