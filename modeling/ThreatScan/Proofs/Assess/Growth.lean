/-
# More vulnerabilities in a quality assessment

The security score takes off 25 for each grave vulnerability, 10 for each other one, and half of
what the complexity exceeds fifty by.  With few vulnerabilities this is computed exactly but for one
rounding (`securityScore_eq`), and rounding keeps the order; with many of them the verdict is LOW in
any case (`ofQuality_eq_low_of_many`).

Complexity is an average over lines, so it may fall when a line is added, by up to 100, and the
score then gains up to 50.  One more grave vulnerability costs as much as the complexity can give
back, but one of the others costs 10 only.  So a verdict never gets better with a grave one, nor as
long as the complexity falls by less than 20 (`securityRank_ofQuality_le`), and with any of them
it does not rise from LOW to HIGH (`not_low_and_high`).
-/
import ThreatScan.Proofs.Assess.Quality
import ThreatScan.Proofs.Number.Exact
import ThreatScan.Proofs.Scan.Verdict

namespace ThreatScan
namespace Quality

open Binary64 Rounding

variable {m m' : Matching} {s s' : Metrics}

/-! ## 1. The score -/

/-- What complexity takes off the score, before rounding. -/
def excess (x : ℚ) : ℚ := max 0 ((x - 50) / 2)

/-- The score of few vulnerabilities, before rounding. -/
def exactScore (m : Matching) (x : ℚ) : ℚ :=
  100 - m.count .high * 25 - m.count .medium * 10 - excess x

/-- Complexity is a rounded percentage. -/
structure IsComplexity (a : Binary64) (x : ℚ) : Prop where
  eq : a = .finite x
  rounded : ∃ q, x = nearest q
  nonneg : 0 ≤ x
  le : x ≤ 100

theorem excess_nonneg (x : ℚ) : 0 ≤ excess x := le_max_left _ _

theorem excess_le {x : ℚ} (hx : x ≤ 100) : excess x ≤ 25 := max_le (by norm_num) (by linarith)

/-- Half of the difference, at most, is what the excesses differ by. -/
theorem excess_le_add {x y d : ℚ} (hd : 0 ≤ d) (h : x - y ≤ 2 * d) : excess x ≤ excess y + d := by
  have hy := excess_nonneg y
  have hle : (y - 50) / 2 ≤ excess y := le_max_right _ _
  exact max_le (by linarith) (by linarith)

theorem isComplexity_hundred : IsComplexity 100 100 :=
  ⟨hundred_eq, ⟨100, by exact_mod_cast (nearest_intCast (n := 100) (by norm_num)).symm⟩,
    by norm_num, le_rfl⟩

theorem isComplexity_complexityOf (branches lines : ℕ) (h : lines ≠ 0) :
    ∃ x, IsComplexity (complexityOf branches lines h) x := by
  have hquotient : 0 ≤ mkRat branches lines := Rat.mkRat_nonneg (Int.natCast_nonneg _) _
  -- A product too large for a double is cut to one hundred like every other one beyond it.
  have hinf : least (.inf false) 100 = 100 := by
    rw [hundred_eq]
    rfl
  have hproduct : (.inf false : Binary64) * .finite 50 = .inf false := by decide +kernel
  rw [complexityOf, ofQuotient, fifty_eq]
  rcases ofRat_cases hquotient with hq | hq
  · rw [hq, hproduct, hinf]
    exact ⟨100, isComplexity_hundred⟩
  · have hnonneg := nearest_nonneg hquotient
    rw [hq, finite_mul_finite hnonneg (by norm_num)]
    rcases ofRat_cases (mul_nonneg hnonneg (by norm_num : (0 : ℚ) ≤ 50)) with hp | hp
    · rw [hp, hinf]
      exact ⟨100, isComplexity_hundred⟩
    · have hproduct₀ : 0 ≤ nearest (nearest (mkRat branches lines) * 50) :=
        nearest_nonneg (mul_nonneg hnonneg (by norm_num))
      rw [hp, hundred_eq, least_finite]
      refine ⟨_, rfl, ?_, le_min hproduct₀ (by norm_num), min_le_right _ _⟩
      rcases min_choice (nearest (nearest (mkRat branches lines) * 50)) 100 with hmin | hmin
      · exact ⟨_, hmin⟩
      · rw [hmin]
        exact isComplexity_hundred.rounded

theorem exists_isComplexity (code : Text) : ∃ x, IsComplexity (metrics code).complexity x := by
  unfold metrics
  simp only
  split
  · exact ⟨0, zero_eq, ⟨0, nearest_zero.symm⟩, le_rfl, by norm_num⟩
  · exact isComplexity_complexityOf _ _ _

/-- **With few vulnerabilities the score is rounded once.** -/
theorem securityScore_eq {x : ℚ} (hx : IsComplexity s.complexity x) (hhigh : m.count .high ≤ 1)
    (hmedium : m.count .medium ≤ 5) : securityScore m s = .finite (nearest (exactScore m x)) := by
  obtain ⟨q, hq⟩ := hx.rounded
  have hhigh' : (m.count .high : ℚ) ≤ 1 := by exact_mod_cast hhigh
  have hmedium' : (m.count .medium : ℚ) ≤ 5 := by exact_mod_cast hmedium
  have hexcess := excess_nonneg x
  have hexcess' := excess_le hx.le
  have hint : ∀ n : ℤ, |n| ≤ 100 → nearest n = n := by
    intro n hn
    exact nearest_intCast (by omega)
  have hgrave : (ofNat (m.count .high * 25) : Binary64) = .finite (m.count .high * 25) := by
    exact_mod_cast ofNat_eq (n := m.count .high * 25) (by omega)
  have hother : (ofNat (m.count .medium * 10) : Binary64) = .finite (m.count .medium * 10) := by
    exact_mod_cast ofNat_eq (n := m.count .medium * 10) (by omega)
  have hfirst : nearest (100 - m.count .high * 25) = 100 - m.count .high * 25 := by
    exact_mod_cast hint (100 - m.count .high * 25) (by rw [abs_of_nonneg] <;> omega)
  have hsecond : nearest (100 - m.count .high * 25 - m.count .medium * 10) =
      100 - m.count .high * 25 - m.count .medium * 10 := by
    exact_mod_cast hint (100 - m.count .high * 25 - m.count .medium * 10)
      (by rw [abs_of_nonneg] <;> omega)
  have hhigh₀ : (0 : ℚ) ≤ m.count .high := Nat.cast_nonneg _
  have hmedium₀ : (0 : ℚ) ≤ m.count .medium := Nat.cast_nonneg _
  have hscore : 0 ≤ exactScore m x := by
    unfold exactScore
    linarith
  rw [securityScore, hx.eq, excess_eq hq hx.le, hundred_eq, hgrave, hother,
    finite_sub_finite (fun _ => by exact_mod_cast hint 100 (by norm_num)) (by linarith)
      (by linarith), hfirst, finite_sub_finite (fun _ => hfirst) (by linarith) (by linarith),
    hsecond]
  change greatest (.finite _ - .finite (excess x)) 0 = _
  rw [finite_sub_finite (fun _ => hsecond) (by linarith) (by linarith), zero_eq, greatest_finite]
  congr 1
  exact max_eq_left (nearest_nonneg hscore)

/-- A whole number that the sum reaches, the score reaches. -/
theorem le_round_securityScore {x : ℚ} {n : ℤ} (hx : IsComplexity s.complexity x)
    (hhigh : m.count .high ≤ 1) (hmedium : m.count .medium ≤ 5) (hn : |n| < 2 ^ 53)
    (h : (n : ℚ) ≤ exactScore m x) : n ≤ (securityScore m s).round := by
  have hnearest : (n : ℚ) ≤ nearest (exactScore m x) := by
    have hmono := nearest_mono h
    rwa [nearest_intCast hn] at hmono
  rw [securityScore_eq hx hhigh hmedium]
  exact le_toEven hnearest

/-- Many vulnerabilities leave less than fifty of the score. -/
theorem round_securityScore_lt (h : 6 ≤ m.count .medium) : (securityScore m s).round < 50 := by
  have hother : NotBelow ((60 : ℤ) : ℚ) (ofNat (m.count .medium * 10)) := by
    have hle : ((60 : ℕ) : ℚ) ≤ ((m.count .medium * 10 : ℕ) : ℚ) := by exact_mod_cast by omega
    exact_mod_cast natCast_notBelow_ofRat (by norm_num) hle
  have hgrave : NotAbove ((100 : ℤ) : ℚ) (100 - ofNat (m.count .high * 25)) :=
    NotAbove.sub (by norm_num) (by simp [hundred_eq]) (notBelow_ofNat _)
  have hboth : NotAbove ((40 : ℤ) : ℚ) (100 - ofNat (m.count .high * 25) -
      ofNat (m.count .medium * 10)) := by
    exact_mod_cast hgrave.sub_notBelow (by norm_num) hother
  have hexcess : NotBelow 0 (greatest 0 ((s.complexity - 50) * 0.5)) := by
    rw [zero_eq]
    exact notBelow_finite_greatest 0 _
  have hall := hboth.sub (by norm_num) hexcess
  have hscore : NotAbove ((40 : ℕ) : ℚ) (securityScore m s) :=
    NotAbove.greatest (by exact_mod_cast hall) (by simp)
  have hround := round_le hscore
  omega

theorem round_finite (q : ℚ) : (.finite q : Binary64).round = toEven q := rfl

/-- A smaller sum is rounded to no greater score. -/
theorem round_securityScore_le {x x' : ℚ} (hx : IsComplexity s.complexity x)
    (hx' : IsComplexity s'.complexity x') (hhigh : m.count .high ≤ 1)
    (hmedium : m.count .medium ≤ 5) (hhigh' : m'.count .high ≤ 1) (hmedium' : m'.count .medium ≤ 5)
    (h : exactScore m' x' ≤ exactScore m x) :
    (securityScore m' s').round ≤ (securityScore m s).round := by
  rw [securityScore_eq hx hhigh hmedium, securityScore_eq hx' hhigh' hmedium', round_finite,
    round_finite]
  exact toEven_mono (nearest_mono h)

/-! ## 2. The risk -/

theorem vulnerabilityRisk_eq_high_iff : vulnerabilityRisk m = .high ↔ 2 ≤ m.count .high := by
  unfold vulnerabilityRisk
  split_ifs <;> simp_all

theorem vulnerabilityRisk_eq_low_iff :
    vulnerabilityRisk m = .low ↔ m.count .high = 0 ∧ m.count .medium < 3 := by
  unfold vulnerabilityRisk
  split_ifs <;> simp_all <;> omega

/-- More vulnerabilities are no smaller risk. -/
theorem vulnerabilityRisk_mono (hhigh : m.count .high ≤ m'.count .high)
    (hmedium : m.count .medium ≤ m'.count .medium) :
    (vulnerabilityRisk m).securityRank ≤ (vulnerabilityRisk m').securityRank := by
  rw [Level.securityRank_le_iff, vulnerabilityRisk_eq_low_iff, vulnerabilityRisk_eq_low_iff,
    vulnerabilityRisk_eq_high_iff, vulnerabilityRisk_eq_high_iff]
  omega

/-! ## 3. The verdict -/

theorem ofQuality_eq_low_iff {q : CodeQuality} :
    Verdict.ofQuality q = .low ↔ q.vulnerabilityRisk = .high ∨ q.securityScore < 50 := by
  unfold Verdict.ofQuality
  split_ifs <;> simp_all

theorem ofQuality_eq_high_iff {q : CodeQuality} :
    Verdict.ofQuality q = .high ↔ q.vulnerabilityRisk = .low ∧ 70 ≤ q.securityScore := by
  unfold Verdict.ofQuality
  split_ifs <;> cases h : q.vulnerabilityRisk <;> simp_all
  omega

/-- Two grave vulnerabilities or six others call for LOW. -/
theorem ofQuality_eq_low_of_many (h : 2 ≤ m.count .high ∨ 6 ≤ m.count .medium) :
    Verdict.ofQuality (assessment m s) = .low := by
  rw [ofQuality_eq_low_iff]
  rcases h with h | h
  · exact .inl (vulnerabilityRisk_eq_high h)
  · exact .inr (round_securityScore_lt h)

/-- The second assessment counts every vulnerability of the first, and more. -/
structure Extends (m' m : Matching) : Prop where
  high : m.count .high ≤ m'.count .high
  medium : m.count .medium ≤ m'.count .medium
  more : m.count .high < m'.count .high ∨ m.count .medium < m'.count .medium

theorem complexityScore_eq {x : ℚ} (hx : IsComplexity s.complexity x) :
    (assessment m s).complexityScore = toEven x := by
  rw [← round_finite, ← hx.eq]
  rfl

/-- A fall of the rounded complexity by less than twenty is a fall by no more than twenty. -/
theorem sub_le_of_complexityScore {x x' : ℚ} (hx : IsComplexity s.complexity x)
    (hx' : IsComplexity s'.complexity x')
    (h : (assessment m s).complexityScore < (assessment m' s').complexityScore + 20) :
    x - x' ≤ 20 := by
  rw [complexityScore_eq hx, complexityScore_eq hx'] at h
  have hle : (toEven x : ℚ) ≤ toEven x' + 19 := by exact_mod_cast by omega
  have hnear := (abs_le.mp (abs_sub_toEven_le x)).2
  have hnear' := (abs_le.mp (abs_sub_toEven_le x')).1
  linarith

/-- **A verdict does not get better** with one more grave vulnerability, nor with any other as long
as the complexity falls by less than twenty. -/
theorem securityRank_ofQuality_le (hm : Extends m' m) (code code' : Text)
    (h : m.count .high < m'.count .high ∨ (assessment m (metrics code)).complexityScore <
      (assessment m' (metrics code')).complexityScore + 20) :
    (Verdict.ofQuality (assessment m' (metrics code'))).securityRank ≤
      (Verdict.ofQuality (assessment m (metrics code))).securityRank := by
  by_cases hmany : 2 ≤ m'.count .high ∨ 6 ≤ m'.count .medium
  · rw [ofQuality_eq_low_of_many hmany]
    exact Nat.zero_le _
  obtain ⟨x, hx⟩ := exists_isComplexity code
  obtain ⟨x', hx'⟩ := exists_isComplexity code'
  have hhigh := hm.high
  have hmedium := hm.medium
  have hscore : exactScore m' x' ≤ exactScore m x := by
    have hhighℚ : (m.count .high : ℚ) ≤ m'.count .high := by exact_mod_cast hm.high
    have hmediumℚ : (m.count .medium : ℚ) ≤ m'.count .medium := by exact_mod_cast hm.medium
    unfold exactScore
    by_cases hgrave : m.count .high < m'.count .high
    · have hone : (m.count .high : ℚ) + 1 ≤ m'.count .high := by exact_mod_cast hgrave
      have hexcess := excess_le hx.le
      have hexcess' := excess_nonneg x'
      linarith
    · have hone : (m.count .medium : ℚ) + 1 ≤ m'.count .medium := by
        exact_mod_cast hm.more.resolve_left hgrave
      have hfall := sub_le_of_complexityScore hx hx' (h.resolve_left hgrave)
      have hexcess := excess_le_add (by norm_num : (0 : ℚ) ≤ 10) (by linarith : x - x' ≤ 2 * 10)
      linarith
  have hround := round_securityScore_le hx hx' (by omega) (by omega) (by omega) (by omega) hscore
  have hrisk := vulnerabilityRisk_mono hm.high hm.medium
  rw [Level.securityRank_le_iff] at hrisk ⊢
  rw [ofQuality_eq_low_iff, ofQuality_eq_low_iff, ofQuality_eq_high_iff, ofQuality_eq_high_iff]
  constructor
  · rintro (hlow | hlow)
    · exact .inl (hrisk.2 hlow)
    · exact .inr (hround.trans_lt hlow)
  · rintro ⟨hlow, hhigh'⟩
    exact ⟨hrisk.1 hlow, hhigh'.trans hround⟩

/-- **A verdict does not rise from LOW to HIGH** with more vulnerabilities. -/
theorem not_low_and_high (hm : Extends m' m) (code code' : Text) :
    ¬ (Verdict.ofQuality (assessment m (metrics code)) = .low ∧
      Verdict.ofQuality (assessment m' (metrics code')) = .high) := by
  rw [ofQuality_eq_low_iff, ofQuality_eq_high_iff]
  rintro ⟨hlow, hrisk, -⟩
  obtain ⟨hnone, hfew⟩ := vulnerabilityRisk_eq_low_iff.mp hrisk
  have hnone' : m.count .high = 0 := Nat.le_zero.mp (hnone ▸ hm.high)
  have hone : m.count .medium ≤ 1 := by
    have hmore := hm.more.resolve_left (by omega)
    omega
  rcases hlow with hlow | hlow
  · have htwo := vulnerabilityRisk_eq_high_iff.mp hlow
    omega
  · obtain ⟨x, hx⟩ := exists_isComplexity code
    have hscore : ((65 : ℤ) : ℚ) ≤ exactScore m x := by
      have hexcess := excess_le hx.le
      have hone' : (m.count .medium : ℚ) ≤ 1 := by exact_mod_cast hone
      unfold exactScore
      rw [hnone']
      push_cast
      linarith
    have hround : 65 ≤ (assessment m (metrics code)).securityScore :=
      le_round_securityScore hx (by omega) (by omega) (by norm_num) hscore
    omega

end Quality
end ThreatScan
