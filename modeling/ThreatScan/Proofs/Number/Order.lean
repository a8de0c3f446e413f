/-
# The order of doubles

Every double that is a number has a place on the line of the rational numbers with its two ends
added, and all comparisons are those of the places (`less_iff`, `atMost_iff`).  So the greatest and
the least of two numbers and the clamp to the unit interval keep the order.

Sums and products of scores stay among finite numbers that are not negative.  `Ascends n a b` says
that `a` and `b` are two of them, in this order and not above `n`; each step of a blend has a lemma
that hands it on.  Every step rounds its result, and `Rounding.nearest_mono` is all that is needed
of the rounding.

A range check is passed by the numbers within the bounds and by nothing else.  Two of the checks
have a name for what passes them: `Nonneg` and `InUnit`.
-/
import ThreatScan.Proofs.Number.Bounds
import Mathlib.Order.WithBot

namespace ThreatScan
namespace Binary64

open Rounding

/-! ## 1. Places -/

/-- The place of a number on the line of the rational numbers with both ends added.  What is no
number stands at zero, too. -/
def place : Binary64 → WithBot (WithTop ℚ)
  | .nan | .negZero => ((0 : ℚ) : WithTop ℚ)
  | .inf true => ⊥
  | .inf false => (⊤ : WithTop ℚ)
  | .finite q => (q : WithTop ℚ)

theorem less_iff {a b : Binary64} :
    a.less b = true ↔ a ≠ .nan ∧ b ≠ .nan ∧ a.place < b.place := by
  have htop (q : ℚ) : ((q : WithTop ℚ) : WithBot (WithTop ℚ)) < (⊤ : WithTop ℚ) :=
    WithBot.coe_lt_coe.mpr (WithTop.coe_lt_top q)
  rcases a with _ | (_ | _) | _ | p <;> rcases b with _ | (_ | _) | _ | q <;>
    simp [less, place, toRat?, -WithBot.coe_top, -WithTop.coe_zero, -WithBot.coe_zero, htop]

theorem same_iff {a b : Binary64} :
    a.same b = true ↔ a ≠ .nan ∧ b ≠ .nan ∧ a.place = b.place := by
  rcases a with _ | (_ | _) | _ | p <;> rcases b with _ | (_ | _) | _ | q <;>
    simp [same, place, toRat?, -WithBot.coe_top, -WithTop.coe_zero, -WithBot.coe_zero]

theorem atMost_iff {a b : Binary64} :
    a.atMost b = true ↔ a ≠ .nan ∧ b ≠ .nan ∧ a.place ≤ b.place := by
  rw [atMost, Bool.or_eq_true, less_iff, same_iff, le_iff_lt_or_eq]
  tauto

theorem atMost_refl {a : Binary64} (h : a ≠ .nan) : a.atMost a = true :=
  atMost_iff.mpr ⟨h, h, le_rfl⟩

theorem atMost_finite {p q : ℚ} : atMost (.finite p) (.finite q) = true ↔ p ≤ q := by
  simp [atMost_iff, place]

/-- What is less than a number is less than every greater number. -/
theorem less_of_less_of_atMost {a b c : Binary64} (hab : a.less b = true)
    (hbc : b.atMost c = true) : a.less c = true := by
  obtain ⟨ha, -, hlt⟩ := less_iff.mp hab
  obtain ⟨-, hc, hle⟩ := atMost_iff.mp hbc
  exact less_iff.mpr ⟨ha, hc, hlt.trans_le hle⟩

/-! ## 2. Least and greatest -/

section Extremes

variable {a b : Binary64} (ha : a ≠ .nan) (hb : b ≠ .nan)
include ha hb

theorem place_greatest : (greatest a b).place = max a.place b.place := by
  unfold greatest
  split
  case isTrue h => exact (max_eq_right (less_iff.mp h).2.2.le).symm
  case isFalse h =>
    have hle : b.place ≤ a.place := not_lt.mp fun hlt => h (less_iff.mpr ⟨ha, hb, hlt⟩)
    exact (max_eq_left hle).symm

theorem place_least : (least a b).place = min a.place b.place := by
  unfold least
  split
  case isTrue h => exact (min_eq_right (less_iff.mp h).2.2.le).symm
  case isFalse h =>
    have hle : a.place ≤ b.place := not_lt.mp fun hlt => h (less_iff.mpr ⟨hb, ha, hlt⟩)
    exact (min_eq_left hle).symm

theorem greatest_ne_nan : greatest a b ≠ .nan := by
  rcases greatest_cases a b with h | h <;> rw [h] <;> assumption

theorem least_ne_nan : least a b ≠ .nan := by
  rcases least_cases a b with h | h <;> rw [h] <;> assumption

end Extremes

theorem greatest_mono {a b c : Binary64} (h : a.atMost b = true) (hc : c ≠ .nan) :
    (greatest a c).atMost (greatest b c) = true := by
  obtain ⟨ha, hb, hle⟩ := atMost_iff.mp h
  rw [atMost_iff, place_greatest ha hc, place_greatest hb hc]
  exact ⟨greatest_ne_nan ha hc, greatest_ne_nan hb hc, max_le_max_right _ hle⟩

/-! ## 3. Numbers in the unit interval -/

/-- A number from zero to one. -/
def InUnit (a : Binary64) : Prop := ∃ q : ℚ, a.toRat? = some q ∧ 0 ≤ q ∧ q ≤ 1

theorem inUnit_of_within {a : Binary64} (h : Within 0 1 a) (hne : a ≠ .nan) : InUnit a := by
  cases a with
  | nan => exact absurd rfl hne
  | inf negative => simp [Within] at h
  | negZero => exact ⟨0, rfl, le_rfl, zero_le_one⟩
  | finite q => exact ⟨q, rfl, h⟩

theorem InUnit.within {a : Binary64} (h : InUnit a) : Within 0 1 a := by
  obtain ⟨q, hq, hbounds⟩ := h
  cases a <;> simp_all [toRat?, Within]

theorem InUnit.ne_nan {a : Binary64} (h : InUnit a) : a ≠ .nan := by
  rintro rfl
  obtain ⟨q, hq, -⟩ := h
  cases hq

theorem inUnit_zero : InUnit 0 := ⟨0, by simp [toRat?], le_rfl, zero_le_one⟩

theorem InUnit.greatest {a b : Binary64} (ha : InUnit a) (hb : InUnit b) :
    InUnit (greatest a b) := by
  rcases greatest_cases a b with h | h <;> rw [h] <;> assumption

theorem InUnit.zero_atMost {a : Binary64} (h : InUnit a) : atMost 0 a = true := by
  have hne := h.ne_nan
  obtain ⟨q, hq, hq₀, -⟩ := h
  have hplace : a.place = (q : WithTop ℚ) := by
    cases a <;> simp_all [place, toRat?]
  refine atMost_iff.mpr ⟨by simp, hne, ?_⟩
  rw [hplace, zero_eq, place]
  exact_mod_cast hq₀

/-- The clamp gives a finite number, whatever it is applied to. -/
theorem clampUnit_eq (a : Binary64) : ∃ q : ℚ, a.clampUnit = .finite q ∧ 0 ≤ q ∧ q ≤ 1 := by
  have hwithin := within_clampUnit a
  have hpositive : a.clampUnit = 0 ∨ less 0 a.clampUnit = true := by
    unfold clampUnit greatest
    split
    case isTrue h => exact .inr h
    case isFalse => exact .inl rfl
  rcases hpositive with h | h
  · exact ⟨0, by rw [h, zero_eq], le_rfl, zero_le_one⟩
  -- A number above zero is neither the negative zero nor no number at all.
  · cases hc : a.clampUnit with
    | finite q =>
      rw [hc] at hwithin
      exact ⟨q, rfl, hwithin⟩
    | nan => simp [hc, less] at h
    | inf negative => simp [hc, Within] at hwithin
    | negZero => simp [hc, less, toRat?] at h

theorem inUnit_clampUnit (a : Binary64) : InUnit a.clampUnit := by
  obtain ⟨q, hq, hbounds⟩ := clampUnit_eq a
  exact ⟨q, by rw [hq, toRat?], hbounds⟩

theorem place_clampUnit {a : Binary64} (h : a ≠ .nan) :
    a.clampUnit.place = max (place 0) (min a.place (place 1)) := by
  have h₁ : (1 : Binary64) ≠ .nan := by simp
  rw [clampUnit, place_greatest (by simp) (least_ne_nan h h₁), place_least h h₁]

/-! ## 4. Finite numbers in ascending order -/

/-- Two finite numbers in ascending order, from zero to `n`. -/
def Ascends (n : ℕ) (a b : Binary64) : Prop :=
  ∃ p q : ℚ, a = .finite p ∧ b = .finite q ∧ 0 ≤ p ∧ p ≤ q ∧ q ≤ n

theorem ascends_clampUnit {a b : Binary64} (h : a.atMost b = true) :
    Ascends 1 a.clampUnit b.clampUnit := by
  obtain ⟨ha, hb, hle⟩ := atMost_iff.mp h
  obtain ⟨p, hp, hp₀, -⟩ := clampUnit_eq a
  obtain ⟨q, hq, -, hq₁⟩ := clampUnit_eq b
  have hplace : a.clampUnit.place ≤ b.clampUnit.place := by
    rw [place_clampUnit ha, place_clampUnit hb]
    exact max_le_max_left _ (min_le_min_right _ hle)
  have hpq : p ≤ q := by simpa [hp, hq, place] using hplace
  exact ⟨p, q, hp, hq, hp₀, hpq, by exact_mod_cast hq₁⟩

theorem ascends_clampUnit_refl (a : Binary64) : Ascends 1 a.clampUnit a.clampUnit := by
  obtain ⟨q, hq, hq₀, hq₁⟩ := clampUnit_eq a
  exact ⟨q, q, hq, hq, hq₀, le_rfl, by exact_mod_cast hq₁⟩

/-- Rounding leaves a number finite that is not negative and not above a small integer. -/
theorem ofRat_eq_finite {q : ℚ} {n : ℕ} (hn : n < 2 ^ 53) (h₀ : 0 ≤ q) (h : q ≤ n) :
    ofRat q = .finite (nearest q) ∧ 0 ≤ nearest q ∧ nearest q ≤ n := by
  have habs : |(n : ℤ)| < 2 ^ 53 := by
    rw [abs_of_nonneg (by omega)]
    exact_mod_cast hn
  have hlow := nearest_nonneg h₀
  have hhigh : nearest q ≤ n := by
    have h₁ : nearest q ≤ nearest ((n : ℤ) : ℚ) := nearest_mono (by exact_mod_cast h)
    rwa [nearest_intCast habs, Int.cast_natCast] at h₁
  have hsmall : magnitude (nearest q) < overflow := by
    rw [magnitude_eq_abs, abs_of_nonneg hlow]
    exact hhigh.trans_lt (lt_overflow (by exact_mod_cast hn))
  refine ⟨?_, hlow, hhigh⟩
  simp [ofRat, not_le.mpr hsmall, not_lt.mpr h₀]

theorem ascends_ofRat {p q : ℚ} {n : ℕ} (hn : n < 2 ^ 53) (h₀ : 0 ≤ p) (hpq : p ≤ q) (h : q ≤ n) :
    Ascends n (ofRat p) (ofRat q) := by
  obtain ⟨hp, hlow, -⟩ := ofRat_eq_finite hn h₀ (hpq.trans h)
  obtain ⟨hq, -, hhigh⟩ := ofRat_eq_finite hn (h₀.trans hpq) h
  exact ⟨_, _, hp, hq, hlow, nearest_mono hpq, hhigh⟩

theorem ascends_ofNat {m n : ℕ} (hn : n < 2 ^ 53) (h : m ≤ n) : Ascends n (ofNat m) (ofNat m) :=
  ascends_ofRat hn (Nat.cast_nonneg m) le_rfl (by exact_mod_cast h)

/-- A product of numbers that are not negative is the rounded product. -/
theorem finite_mul_finite {p q : ℚ} (hp : 0 ≤ p) (hq : 0 ≤ q) :
    (.finite p : Binary64) * .finite q = ofRat (p * q) := by
  have hzero : ofRat 0 = .finite 0 := by
    obtain ⟨h, -, -⟩ := ofRat_eq_finite (n := 0) (by norm_num) le_rfl (by norm_num)
    rw [h, nearest_zero]
  show Binary64.mul (.finite p) (.finite q) = _
  simp only [Binary64.mul, isNegative, not_lt.mpr hp, not_lt.mpr hq, decide_false]
  split
  case isTrue h =>
    have hpq : p * q = 0 := by simpa using h
    rw [hpq, hzero]
    rfl
  case isFalse h => rfl

namespace Ascends

variable {n m : ℕ} {a b c d : Binary64}

theorem atMost (h : Ascends n a b) : a.atMost b = true := by
  obtain ⟨p, q, rfl, rfl, -, hpq, -⟩ := h
  exact atMost_finite.mpr hpq

/-- A sum keeps the order of its parts. -/
theorem add (hnm : n + m < 2 ^ 53) (h : Ascends n a b) (h' : Ascends m c d) :
    Ascends (n + m) (a + c) (b + d) := by
  obtain ⟨p, q, rfl, rfl, hp, hpq, hq⟩ := h
  obtain ⟨r, s, rfl, rfl, hr, hrs, hs⟩ := h'
  exact ascends_ofRat hnm (add_nonneg hp hr) (add_le_add hpq hrs) (by push_cast; linarith)

/-- A product keeps the order of its parts. -/
theorem mul (hnm : n * m < 2 ^ 53) (h : Ascends n a b) (h' : Ascends m c d) :
    Ascends (n * m) (a * c) (b * d) := by
  obtain ⟨p, q, rfl, rfl, hp, hpq, hq⟩ := h
  obtain ⟨r, s, rfl, rfl, hr, hrs, hs⟩ := h'
  have hq₀ : 0 ≤ q := hp.trans hpq
  have hs₀ : 0 ≤ s := hr.trans hrs
  rw [finite_mul_finite hp hr, finite_mul_finite hq₀ hs₀]
  refine ascends_ofRat hnm (mul_nonneg hp hr) (mul_le_mul hpq hrs hr hq₀) ?_
  push_cast
  exact mul_le_mul hq hs hs₀ (Nat.cast_nonneg n)

theorem round_le (h : Ascends n a b) : a.round ≤ b.round := by
  obtain ⟨p, q, rfl, rfl, -, hpq, -⟩ := h
  exact toEven_mono hpq

end Ascends

/-! ## 5. What stays a number -/

theorem ofNat_ne_nan (n : ℕ) : ofNat n ≠ .nan := ofRat_ne_nan n

/-- Infinities of one sign have a sum. -/
theorem NotBelow.add_ne_nan {a b : Binary64} (ha : NotBelow 0 a) (hb : NotBelow 0 b)
    (ha' : a ≠ .nan) (hb' : b ≠ .nan) : a + b ≠ .nan := by
  show Binary64.add a b ≠ .nan
  cases a <;> cases b <;> simp_all [Binary64.add, ofRat_ne_nan]

theorem zero_ne_nan (negative : Bool) : zero negative ≠ .nan := by
  cases negative <;> simp [zero]

/-- Only zero has no product with an infinity. -/
theorem mul_ne_nan {a b : Binary64} (ha : a ≠ .nan) (hb : b ≠ .nan)
    (hzero : a.toRat? ≠ some 0 ∨ b.isFinite = true)
    (hzero' : b.toRat? ≠ some 0 ∨ a.isFinite = true) :
    a * b ≠ .nan := by
  show Binary64.mul a b ≠ .nan
  cases a <;> cases b <;>
    simp_all [Binary64.mul, toRat?, isFinite, zero_ne_nan]
  case finite.finite p q =>
    split
    · exact zero_ne_nan _
    · exact ofRat_ne_nan _

theorem div_finite_ne_nan {a : Binary64} {q : ℚ} (ha : a ≠ .nan) (hq : q ≠ 0) :
    a / .finite q ≠ .nan := by
  show Binary64.div a (.finite q) ≠ .nan
  cases a with
  | nan => exact absurd rfl ha
  | inf s => simp [Binary64.div, toRat?]
  | negZero => simp [Binary64.div, toRat?, hq, zero_ne_nan]
  | finite p =>
    simp only [Binary64.div, toRat?, hq, if_false]
    split
    · exact zero_ne_nan _
    · exact ofRat_ne_nan _

/-! ## 6. Numbers that are not negative -/

/-- A number that is not negative; it may be infinite. -/
structure Nonneg (a : Binary64) : Prop where
  notBelow : NotBelow 0 a
  ne_nan : a ≠ .nan

theorem nonneg_iff {a : Binary64} : Nonneg a ↔ a.less 0 = false ∧ a ≠ .nan := by
  rw [less_zero]
  exact ⟨fun h => ⟨h.notBelow, h.ne_nan⟩, fun h => ⟨h.1, h.2⟩⟩

instance (a : Binary64) : Decidable (Nonneg a) := decidable_of_iff _ nonneg_iff.symm

theorem nonneg_ofRat {q : ℚ} (h : 0 ≤ q) : Nonneg (ofRat q) := ⟨notBelow_ofRat h, ofRat_ne_nan q⟩

theorem nonneg_ofNat (n : ℕ) : Nonneg (ofNat n) := nonneg_ofRat (Nat.cast_nonneg n)

theorem nonneg_ofInt {n : ℤ} (h : 0 ≤ n) : Nonneg (ofInt n) := nonneg_ofRat (Int.cast_nonneg h)

theorem nonneg_ofScientific (m : ℕ) (s : Bool) (e : ℕ) :
    Nonneg (OfScientific.ofScientific m s e) :=
  nonneg_ofRat (Rat.ofScientific_nonneg m s e)

/-- At least one of something is not nothing. -/
theorem toRat?_ofNat_ne_zero {n : ℕ} (h : 0 < n) : (ofNat n).toRat? ≠ some 0 := by
  have hone : NotBelow ((1 : ℕ) : ℚ) (ofNat n) :=
    natCast_notBelow_ofRat (by norm_num) (by exact_mod_cast h)
  intro hzero
  cases hn : ofNat n <;> simp_all [toRat?]
  case negZero => linarith
  case finite q => linarith

namespace Nonneg

variable {a b : Binary64}

theorem add (ha : Nonneg a) (hb : Nonneg b) : Nonneg (a + b) :=
  ⟨ha.notBelow.add hb.notBelow, ha.notBelow.add_ne_nan hb.notBelow ha.ne_nan hb.ne_nan⟩

/-- At least once a number is not negative as the number is not, zero and infinity included. -/
theorem times (ha : Nonneg a) {count : ℕ} (hcount : 0 < count) : Nonneg (a.times count) := by
  unfold Binary64.times
  split
  case isTrue => exact ha
  case isFalse hzero =>
    refine ⟨ha.notBelow.mul (notBelow_ofNat count), ?_⟩
    have hfactor := toRat?_ofNat_ne_zero hcount
    exact mul_ne_nan ha.ne_nan (ofNat_ne_nan count) (.inl hzero) (.inl hfactor)

theorem div (ha : Nonneg a) {q : ℚ} (hq : 0 < q) : Nonneg (a / .finite q) :=
  ⟨ha.notBelow.div hq, div_finite_ne_nan ha.ne_nan hq.ne'⟩

theorem inUnit_least_one (ha : Nonneg a) : InUnit (least a 1) := by
  refine inUnit_of_within ?_ (least_ne_nan ha.ne_nan (by simp))
  rw [one_eq]
  exact ⟨ha.notBelow.least (by simp), notAbove_least a 1⟩

/-- Rounding to decimal places does not lead below zero. -/
theorem roundPlaces (ha : Nonneg a) (places : ℕ) : Nonneg (a.roundPlaces places) := by
  cases a with
  | nan => exact ha
  | inf s => exact ha
  | negZero => exact ha
  | finite q =>
    have hq : 0 ≤ q := ha.notBelow
    simp only [Binary64.roundPlaces, not_lt.mpr hq, decide_false, Bool.false_and,
      Bool.false_eq_true, if_false]
    refine nonneg_ofRat (Rat.mkRat_nonneg (le_toEven ?_) _)
    have hpower : (0 : ℚ) ≤ 10 ^ (places : ℤ) := zpow_nonneg (by norm_num) _
    exact_mod_cast mul_nonneg hq hpower

end Nonneg

/-! ## 7. Range checks -/

theorem atMost_iff_less {a b : Binary64} :
    a.atMost b = true ↔ a ≠ .nan ∧ b ≠ .nan ∧ b.less a = false := by
  rw [atMost_iff, ← Bool.not_eq_true, less_iff]
  constructor
  · rintro ⟨ha, hb, hle⟩
    exact ⟨ha, hb, fun h => h.2.2.not_ge hle⟩
  · rintro ⟨ha, hb, hless⟩
    exact ⟨ha, hb, not_lt.mp fun hlt => hless ⟨hb, ha, hlt⟩⟩

open Decode (Bounds)

/-- A number passes a check if it keeps the bounds that there are. -/
theorem brokenByNumber_eq_none_iff {b : Bounds} {a : Binary64} :
    b.brokenByNumber a = none ↔
      (∀ m ∈ b.most, a.atMost (ofInt m) = true) ∧ ∀ l ∈ b.least, atMost (ofInt l) a = true := by
  obtain ⟨least, most⟩ := b
  cases most <;> cases least <;> simp [Bounds.brokenByNumber, Option.filter] <;> grind

theorem ofInt_atMost {a : Binary64} {n : ℤ} (hn : |n| < 2 ^ 53) :
    atMost (ofInt n) a = true ↔ a ≠ .nan ∧ NotBelow n a := by
  rw [atMost_iff_less, ofInt_eq hn, less_finite]
  simp

theorem atMost_ofInt {a : Binary64} {n : ℤ} (hn : |n| < 2 ^ 53) :
    a.atMost (ofInt n) = true ↔ a ≠ .nan ∧ NotAbove n a := by
  rw [atMost_iff_less, ofInt_eq hn, finite_less]
  simp

theorem natural_brokenByNumber {a : Binary64} :
    Bounds.natural.brokenByNumber a = none ↔ Nonneg a := by
  have hzero := ofInt_atMost (a := a) (n := 0) (by norm_num)
  simp only [brokenByNumber_eq_none_iff, Bounds.natural, Option.mem_def, reduceCtorEq,
    IsEmpty.forall_iff, implies_true, true_and, Option.some.injEq, forall_eq', hzero]
  exact ⟨fun h => ⟨by exact_mod_cast h.2, h.1⟩, fun h => ⟨h.ne_nan, by exact_mod_cast h.notBelow⟩⟩

theorem unit_brokenByNumber {a : Binary64} :
    Bounds.unit.brokenByNumber a = none ↔ InUnit a := by
  have hzero := ofInt_atMost (a := a) (n := 0) (by norm_num)
  have hone := atMost_ofInt (a := a) (n := 1) (by norm_num)
  simp only [brokenByNumber_eq_none_iff, Bounds.unit, Option.mem_def, Option.some.injEq,
    forall_eq', hzero, hone]
  constructor
  · rintro ⟨⟨hne, hle⟩, -, hge⟩
    exact inUnit_of_within ⟨by exact_mod_cast hge, by exact_mod_cast hle⟩ hne
  · intro h
    exact ⟨⟨h.ne_nan, by exact_mod_cast h.within.2⟩, h.ne_nan, by exact_mod_cast h.within.1⟩

end Binary64
end ThreatScan
