/-
# Numbers come back

A printed number is read as the same number, whatever stands behind it, as long as that does not go
on with the number.  For an integer this is a matter of digits.  A double is written with its
shortest digits in one of four shapes; each stands for the same rational number, which is rounded to
the double once more (`parseNumber?_render`).
-/
import ThreatScan.Json.Printer
import ThreatScan.Proofs.Number.Numerals
import ThreatScan.Proofs.Number.Shortest

namespace ThreatScan
namespace Json

/-! ## 1. The parts of a number -/

/-- A text that does not go on with a number in front of it. -/
def EndsNumber (t : Text) : Prop :=
  ∀ c ∈ t.head?, isDigit c = false ∧ c ≠ 46 ∧ c ≠ 101 ∧ c ≠ 69

/-- A fraction with its point, if there is one. -/
def fractionText : Option Text → Text
  | none => []
  | some ds => 46 :: ds

theorem parseExponent?_of_ends {t : Text} (h : EndsNumber t) : parseExponent? t = some (none, t) := by
  cases t with
  | nil => rfl
  | cons c t =>
    obtain ⟨-, -, h101, h69⟩ := h c rfl
    simp [parseExponent?, h101, h69]

section Exponent

variable {ds t : Text}

theorem parseExponent?_minus (hds : ds.IsDigits) (hne : ds ≠ [])
    (ht : ∀ c ∈ t.head?, isDigit c = false) :
    parseExponent? (101 :: 45 :: (ds ++ t)) = some (some (-(decimalValue ds : ℤ)), t) := by
  obtain ⟨c, es, rfl⟩ := List.exists_cons_of_ne_nil hne
  simp only [parseExponent?, true_or, if_true, digitsOf_append hds ht]

theorem parseExponent?_plus (hds : ds.IsDigits) (hne : ds ≠ [])
    (ht : ∀ c ∈ t.head?, isDigit c = false) :
    parseExponent? (101 :: 43 :: (ds ++ t)) = some (some (decimalValue ds : ℤ), t) := by
  obtain ⟨c, es, rfl⟩ := List.exists_cons_of_ne_nil hne
  simp only [parseExponent?, true_or, if_true, digitsOf_append hds ht]
  rfl

theorem parseExponent?_bare (hds : ds.IsDigits) (hne : ds ≠ [])
    (ht : ∀ c ∈ t.head?, isDigit c = false) :
    parseExponent? (101 :: (ds ++ t)) = some (some (decimalValue ds : ℤ), t) := by
  obtain ⟨c, es, rfl⟩ := List.exists_cons_of_ne_nil hne
  have hc : isDigit c = true := hds c List.mem_cons_self
  have hminus : c ≠ 45 := by rintro rfl; cases hc
  have hplus : c ≠ 43 := by rintro rfl; cases hc
  have hread := digitsOf_append hds ht
  rw [List.cons_append] at hread ⊢
  simp [parseExponent?, hread, hminus, hplus]

end Exponent

theorem parseExponent?_exponentText (padded : Bool) (e : ℤ) {t : Text} (h : EndsNumber t) :
    parseExponent? (Decimal.exponentText padded e ++ t) = some (some e, t) := by
  obtain ⟨ds, hds, hne, hvalue, htext⟩ : ∃ ds : Text, ds.IsDigits ∧ ds ≠ [] ∧
      decimalValue ds = e.natAbs ∧ Decimal.exponentText padded e =
        101 :: if e < 0 then 45 :: ds else if padded then 43 :: ds else ds := by
    cases padded with
    | true =>
      refine ⟨Text.padLeft 2 48 (Text.ofNat e.natAbs),
        (Text.isDigits_replicate _).append (Text.isDigits_ofNat _), ?_, ?_, ?_⟩
      · simp [Text.padLeft, Text.ofNat_ne_nil]
      · rw [Text.padLeft, decimalValue_zeros_append, decimalValue_ofNat]
      · simp only [Decimal.exponentText, if_true]
        split <;> rfl
    | false =>
      exact ⟨Text.ofNat e.natAbs, Text.isDigits_ofNat _, Text.ofNat_ne_nil _,
        decimalValue_ofNat _, rfl⟩
  have hdigit : ∀ c ∈ t.head?, isDigit c = false := fun c hc => (h c hc).1
  rw [htext]
  by_cases he : e < 0
  · rw [if_pos he]
    refine (parseExponent?_minus hds hne hdigit).trans ?_
    rw [hvalue, Int.ofNat_natAbs_of_nonpos he.le, neg_neg]
  · have hnatAbs : (decimalValue ds : ℤ) = e := by
      rw [hvalue, Int.natAbs_of_nonneg (not_lt.mp he)]
    rw [if_neg he]
    cases padded with
    | true => exact (parseExponent?_plus hds hne hdigit).trans (by rw [hnatAbs])
    | false => exact (parseExponent?_bare hds hne hdigit).trans (by rw [hnatAbs])

/-! ## 2. A number -/

/-- What is read of a whole part, a fraction and a tail with or without an exponent. -/
theorem parseMagnitude?_eq (negative : Bool) (fraction : Option Text) {whole tail rest : Text}
    {exponent : Option ℤ} (hwhole : whole.IsDigits) (hne : whole ≠ [])
    (hfraction : ∀ ds ∈ fraction, ds.IsDigits ∧ ds ≠ [])
    (htail : parseExponent? tail = some (exponent, rest))
    (hhead : ∀ c ∈ tail.head?, isDigit c = false ∧ c ≠ 46) :
    parseMagnitude? negative (whole ++ (fractionText fraction ++ tail)) =
      some (if fraction.isNone && exponent.isNone then
        .int (if negative then -(decimalValue whole : ℤ) else decimalValue whole)
      else .float (Decimal.ofDecimal negative (decimalValue (whole ++ fraction.getD []))
        (exponent.getD 0 - (fraction.getD []).length)), rest) := by
  have hdigit : ∀ c ∈ tail.head?, isDigit c = false := fun c hc => (hhead c hc).1
  obtain ⟨w, ws, rfl⟩ := List.exists_cons_of_ne_nil hne
  cases fraction with
  | none =>
    have hread := digitsOf_append hwhole hdigit
    rw [fractionText, List.nil_append]
    unfold parseMagnitude?
    rw [hread]
    cases tail with
    | nil => cases exponent <;> simp [htail]
    | cons c tail =>
      have hc : c ≠ 46 := (hhead c rfl).2
      cases exponent <;> simp [hc, htail]
  | some ds =>
    obtain ⟨hds, hds_ne⟩ := hfraction ds rfl
    obtain ⟨d, es, rfl⟩ := List.exists_cons_of_ne_nil hds_ne
    have hread : digitsOf ((w :: ws) ++ (46 :: ((d :: es) ++ tail))) =
        (w :: ws, 46 :: ((d :: es) ++ tail)) :=
      digitsOf_append hwhole (by rintro c ⟨⟩; rfl)
    have hread' := digitsOf_append hds hdigit
    rw [List.cons_append] at hread'
    show parseMagnitude? negative ((w :: ws) ++ (46 :: ((d :: es) ++ tail))) = _
    unfold parseMagnitude?
    rw [hread]
    simp [hread', htail]

/-- A number without its sign starts with a digit. -/
theorem exists_digit_of_parseMagnitude? {negative : Bool} {t : Text} {r : Json × Text}
    (h : parseMagnitude? negative t = some r) : ∃ c u, t = c :: u ∧ isDigit c = true := by
  cases t with
  | nil => cases h
  | cons c u =>
    refine ⟨c, u, rfl, ?_⟩
    by_contra hc
    have hread : digitsOf (c :: u) = ([], c :: u) := by simp [digitsOf, hc]
    unfold parseMagnitude? at h
    rw [hread] at h
    cases h

theorem parseNumber?_of_parseMagnitude? {t : Text} {r : Json × Text}
    (h : parseMagnitude? false t = some r) : parseNumber? t = some r := by
  obtain ⟨c, u, rfl, hc⟩ := exists_digit_of_parseMagnitude? h
  have hminus : c ≠ 45 := by rintro rfl; cases hc
  simpa [parseNumber?, hminus] using h

/-- A number starts with a digit or with a minus. -/
theorem exists_head_of_parseNumber? {t : Text} {r : Json × Text} (h : parseNumber? t = some r) :
    ∃ c u, t = c :: u ∧ (isDigit c = true ∨ c = 45) := by
  unfold parseNumber? at h
  split at h
  · exact ⟨45, _, rfl, .inr rfl⟩
  · obtain ⟨c, u, rfl, hc⟩ := exists_digit_of_parseMagnitude? h
    exact ⟨c, u, rfl, .inl hc⟩

theorem parseMagnitude?_ofNat (negative : Bool) (n : ℕ) {rest : Text} (hrest : EndsNumber rest) :
    parseMagnitude? negative (Text.ofNat n ++ rest) =
      some (.int (if negative then -(n : ℤ) else n), rest) := by
  have h := parseMagnitude?_eq negative none (Text.isDigits_ofNat n)
    (Text.ofNat_ne_nil n) (by simp) (parseExponent?_of_ends hrest)
    (fun c hc => ⟨(hrest c hc).1, (hrest c hc).2.1⟩)
  rwa [decimalValue_ofNat] at h

/-- **An integer comes back.** -/
theorem parseNumber?_ofInt (n : ℤ) {rest : Text} (hrest : EndsNumber rest) :
    parseNumber? (Text.ofInt n ++ rest) = some (.int n, rest) := by
  cases n with
  | ofNat n => exact parseNumber?_of_parseMagnitude? (parseMagnitude?_ofNat false n hrest)
  | negSucc n =>
    have htext : Text.ofInt (.negSucc n) = 45 :: Text.ofNat (n + 1) := by
      show Text.ofString ("-" ++ Nat.repr (n + 1)) = _
      simp [Text.ofString, Text.ofNat]
    rw [htext]
    exact parseMagnitude?_ofNat true (n + 1) hrest

end Json

/-! ## 3. Doubles -/

namespace Decimal

open Rounding

/-- Where the first digit of proper digits stands. -/
theorem value_bounds {d : Digits} (hne : d.digits ≠ 0) (hd : d.IsProper) :
    tenTo (d.exponent + 1 - d.count) ≤ d.value ∧ d.value < tenTo (d.exponent + 1) := by
  have hunit := tenTo_pos (d.exponent + 1 - d.count)
  have hlow : (1 : ℚ) ≤ d.digits := by exact_mod_cast Nat.one_le_iff_ne_zero.mpr hne
  have hhigh : (d.digits : ℚ) < tenTo d.count := by
    rw [tenTo_natCast]
    exact_mod_cast hd.digits_lt
  constructor
  · have h := mul_le_mul_of_nonneg_right hlow hunit.le
    rwa [one_mul] at h
  · have h := mul_lt_mul_of_pos_right hhigh hunit
    rwa [← tenTo_add, add_sub_cancel] at h

/-- Where the first digit of a natural number stands. -/
theorem natCast_bounds {n : ℕ} (hne : n ≠ 0) :
    tenTo ((Text.ofNat n).length - 1) ≤ n ∧ (n : ℚ) < tenTo (Text.ofNat n).length := by
  have hpos := List.length_pos_iff.mpr (Text.ofNat_ne_nil n)
  obtain ⟨k, hk⟩ : ∃ k, (Text.ofNat n).length = k + 1 := ⟨_, (Nat.sub_add_cancel hpos).symm⟩
  rw [hk, tenTo_natCast]
  constructor
  · have hlow : 10 ^ k ≤ n := by
      rcases Nat.eq_zero_or_pos k with rfl | hkpos
      · exact Nat.one_le_iff_ne_zero.mpr hne
      · by_contra hlt
        have h := (Text.length_ofNat_le_iff hkpos).mpr (not_le.mp hlt)
        omega
    have hexponent : ((k + 1 : ℕ) : ℤ) - 1 = k := by omega
    rw [hexponent, tenTo_natCast]
    exact_mod_cast hlow
  · exact_mod_cast (Text.length_ofNat_le_iff (Nat.succ_pos k)).mp hk.le

/-- Digits with an exponent, read as the number that some proper digits stand for. -/
theorem ofDecimal_eq {d : Digits} (hd : d.IsProper) (hne : d.digits ≠ 0) {n : ℕ} {x : ℤ}
    (hvalue : n * tenTo x = d.value) (negative : Bool) :
    ofDecimal negative n x = Binary64.ofRat (if negative then -d.value else d.value) := by
  obtain ⟨hlow, hhigh⟩ := value_bounds hne hd
  have hn : n ≠ 0 := by
    rintro rfl
    rw [Nat.cast_zero, zero_mul] at hvalue
    exact absurd hlow (not_le.mpr (hvalue ▸ tenTo_pos _))
  obtain ⟨hlow', hhigh'⟩ := natCast_bounds hn
  have hx := tenTo_pos x
  have hmost : tenTo ((Text.ofNat n).length - 1 + x) < tenTo (d.exponent + 1) := by
    rw [tenTo_add]
    exact (mul_le_mul_of_nonneg_right hlow' hx.le).trans_lt (hvalue ▸ hhigh)
  have hleast : tenTo (d.exponent + 1 - d.count) < tenTo ((Text.ofNat n).length + x) := by
    rw [tenTo_add]
    exact hlow.trans_lt (hvalue ▸ mul_lt_mul_of_pos_right hhigh' hx)
  have hmost' := tenTo_lt_iff.mp hmost
  have hleast' := tenTo_lt_iff.mp hleast
  have hlength : (toString n).length = (Text.ofNat n).length := by
    rw [Text.ofNat, Text.ofString, List.length_map, String.length_toList]
  have hexponent := hd.le_exponent
  have hexponent' := hd.exponent_le
  have hcount := hd.count_le
  unfold ofDecimal
  rw [if_neg hn]
  simp only [hlength]
  rw [if_neg (by omega), if_neg (by omega), hvalue]

theorem digits_ne_zero_of_value {d : Digits} {q : ℚ} (hq : 0 < q)
    (h : Binary64.ofRat d.value = .finite q) : d.digits ≠ 0 := by
  intro hzero
  have hvalue : d.value = 0 := by rw [Digits.value, hzero, Nat.cast_zero, zero_mul]
  have hnearest := (nearest_of_ofRat h).1
  rw [hvalue, nearest_zero] at hnearest
  exact absurd hnearest hq.ne

theorem ofRat_neg {v q : ℚ} (hq : 0 < q) (h : Binary64.ofRat v = .finite q) :
    Binary64.ofRat (-v) = .finite (-q) := by
  obtain ⟨hnearest, hsmall⟩ := nearest_of_ofRat h
  rw [abs_of_pos hq] at hsmall
  simp [Binary64.ofRat, nearest_neg, hnearest, magnitude_eq_abs, abs_of_pos hq,
    not_le.mpr hsmall, hq.ne']

end Decimal

namespace Json

open Decimal

variable {d : Digits} {rest : Text}

/-- What is read of a number with a point. -/
theorem parseMagnitude?_fraction (negative : Bool) {whole ds tail : Text} {exponent : Option ℤ}
    (hwhole : whole.IsDigits) (hne : whole ≠ []) (hds : ds.IsDigits) (hds_ne : ds ≠ [])
    (htail : parseExponent? tail = some (exponent, rest))
    (hhead : ∀ c ∈ tail.head?, isDigit c = false ∧ c ≠ 46) :
    parseMagnitude? negative (whole ++ (46 :: ds ++ tail)) =
      some (.float (ofDecimal negative (decimalValue (whole ++ ds))
        (exponent.getD 0 - ds.length)), rest) :=
  parseMagnitude?_eq negative (some ds) hwhole hne
    (by rintro _ ⟨⟩; exact ⟨hds, hds_ne⟩) htail hhead

/-- Digits in positional form are read as the number that they stand for. -/
theorem exists_parse_positionalText (hd : d.IsProper) (negative : Bool) (hrest : EndsNumber rest) :
    ∃ (n : ℕ) (x : ℤ), n * tenTo x = d.value ∧
      parseMagnitude? negative (positionalText d ++ rest) =
        some (.float (ofDecimal negative n x), rest) := by
  obtain ⟨ds, hds⟩ : ∃ ds, digitText d.count d.digits = ds := ⟨_, rfl⟩
  have hdigits := hds ▸ isDigits_digitText d.count d.digits
  have hlength := hds ▸ length_digitText hd.count_pos hd.digits_lt
  have hvalue := hds ▸ decimalValue_digitText d.count d.digits
  have hcount := hd.count_pos
  have hne : ds ≠ [] := List.ne_nil_of_length_pos (by omega)
  have hhead : ∀ c ∈ rest.head?, isDigit c = false ∧ c ≠ 46 :=
    fun c hc => ⟨(hrest c hc).1, (hrest c hc).2.1⟩
  have htail := parseExponent?_of_ends hrest
  unfold positionalText
  simp only [hds]
  split
  case isTrue hnegative =>
    obtain ⟨k, hk⟩ : ∃ k, (-d.exponent - 1).toNat = k := ⟨_, rfl⟩
    have hread := parseMagnitude?_fraction negative (Text.isDigits_replicate 1) (by simp)
      ((Text.isDigits_replicate k).append hdigits) (by simp [hne]) htail hhead
    rw [decimalValue_zeros_append, decimalValue_zeros_append, hvalue, List.length_append,
      List.length_replicate, hlength] at hread
    refine ⟨d.digits, d.exponent + 1 - d.count, rfl, ?_⟩
    have hexponent : (none : Option ℤ).getD 0 - ((k + d.count : ℕ) : ℤ) =
        d.exponent + 1 - d.count := by
      rw [Option.getD_none]
      omega
    rw [hexponent] at hread
    rw [hk, ← hread]
    simp
  case isFalse hnonneg =>
    obtain ⟨k, hk⟩ : ∃ k, d.exponent.toNat + 1 = k := ⟨_, rfl⟩
    simp only [hk]
    split
    case isTrue hwhole =>
      have hread := parseMagnitude?_fraction negative
        (hdigits.append (Text.isDigits_replicate (k - d.count))) (by simp [hne])
        (Text.isDigits_replicate 1) (by simp) htail hhead
      rw [decimalValue_append, decimalValue_append, decimalValue_replicate, decimalValue_replicate,
        hvalue, List.length_replicate, List.length_replicate] at hread
      refine ⟨_, _, ?_, (congrArg _ (by simp)).trans hread⟩
      have hexponent : d.exponent + 1 - d.count = (k - d.count : ℕ) := by omega
      have htenth : tenTo (none.getD 0 - (1 : ℕ)) = 1 / 10 := by norm_num [tenTo]
      rw [Digits.value, hexponent, tenTo_natCast, htenth]
      push_cast
      ring
    case isFalse hwhole =>
      have hread := parseMagnitude?_fraction negative (hdigits.take k)
        (List.ne_nil_of_length_pos (by rw [List.length_take]; omega)) (hdigits.drop k)
        (List.ne_nil_of_length_pos (by rw [List.length_drop]; omega)) htail hhead
      rw [List.take_append_drop, hvalue, List.length_drop, hlength] at hread
      refine ⟨d.digits, d.exponent + 1 - d.count, rfl, ?_⟩
      have hexponent : (none : Option ℤ).getD 0 - ((d.count - k : ℕ) : ℤ) =
          d.exponent + 1 - d.count := by
        rw [Option.getD_none]
        omega
      rw [hexponent] at hread
      rw [← hread]
      simp

/-- Digits in scientific form are read as the number that they stand for. -/
theorem exists_parse_scientificText (hd : d.IsProper) (negative padded : Bool)
    (hrest : EndsNumber rest) :
    ∃ (n : ℕ) (x : ℤ), n * tenTo x = d.value ∧
      parseMagnitude? negative (scientificText padded d ++ rest) =
        some (.float (ofDecimal negative n x), rest) := by
  obtain ⟨ds, hds⟩ : ∃ ds, digitText d.count d.digits = ds := ⟨_, rfl⟩
  have hdigits := hds ▸ isDigits_digitText d.count d.digits
  have hlength := hds ▸ length_digitText hd.count_pos hd.digits_lt
  have hvalue := hds ▸ decimalValue_digitText d.count d.digits
  have hcount := hd.count_pos
  have hne : ds.take 1 ≠ [] := List.ne_nil_of_length_pos (by rw [List.length_take]; omega)
  have htail := parseExponent?_exponentText padded d.exponent hrest
  have hhead : ∀ c ∈ (exponentText padded d.exponent ++ rest).head?,
      isDigit c = false ∧ c ≠ 46 := by
    intro c hc
    obtain rfl : 101 = c := by
      cases padded <;> exact Option.some.inj hc
    exact ⟨rfl, by decide⟩
  unfold scientificText
  simp only [hds]
  split
  case isTrue hone =>
    have hall : ds.take 1 = ds := List.take_of_length_le (by omega)
    have hread := parseMagnitude?_eq negative none (hdigits.take 1) hne (by simp)
      htail hhead
    rw [hall, Option.getD_none, List.append_nil, hvalue] at hread
    refine ⟨d.digits, d.exponent + 1 - d.count, rfl, ?_⟩
    have hexponent : (some d.exponent).getD 0 - (([] : Text).length : ℤ) =
        d.exponent + 1 - d.count := by
      rw [Option.getD_some, List.length_nil]
      omega
    rw [hexponent] at hread
    rw [hall, List.append_nil, List.append_assoc]
    exact hread
  case isFalse hmany =>
    have hread := parseMagnitude?_fraction negative (hdigits.take 1) hne (hdigits.drop 1)
      (List.ne_nil_of_length_pos (by rw [List.length_drop]; omega)) htail hhead
    rw [List.take_append_drop, hvalue, List.length_drop, hlength] at hread
    refine ⟨d.digits, d.exponent + 1 - d.count, rfl, ?_⟩
    have hexponent : (some d.exponent).getD 0 - ((d.count - 1 : ℕ) : ℤ) =
        d.exponent + 1 - d.count := by
      rw [Option.getD_some]
      omega
    rw [hexponent] at hread
    rw [← hread]
    simp

theorem parseMagnitude?_positive (l : Layout) (negative : Bool) {q : ℚ} (hq : 0 < q)
    (h : Binary64.ofRat q = .finite q) (hrest : EndsNumber rest) :
    parseMagnitude? negative (l.positive q ++ rest) =
      some (.float (.finite (if negative then -q else q)), rest) := by
  obtain ⟨hreads, hproper⟩ := ofRat_value_shortest hq h
  obtain ⟨n, x, hvalue, hread⟩ : ∃ (n : ℕ) (x : ℤ), n * tenTo x = (shortest q).value ∧
      parseMagnitude? negative (l.positive q ++ rest) =
        some (.float (ofDecimal negative n x), rest) := by
    simp only [Layout.positive]
    split
    · exact exists_parse_positionalText hproper negative hrest
    · exact exists_parse_scientificText hproper negative l.padded hrest
  have hne : (shortest q).digits ≠ 0 := digits_ne_zero_of_value hq hreads
  rw [hread, ofDecimal_eq hproper hne hvalue]
  cases negative with
  | false => exact congrArg (fun y => some (Json.float y, rest)) hreads
  | true => exact congrArg (fun y => some (Json.float y, rest)) (ofRat_neg hq hreads)

end Json

/-! ## 4. All numbers -/

open Decimal Rounding

/-- A number that the format has: one that is rounded to itself. -/
def Binary64.IsDouble : Binary64 → Prop
  | .finite q => Binary64.ofRat q = .finite q
  | _ => True

instance : (x : Binary64) → Decidable x.IsDouble
  | .finite q => inferInstanceAs (Decidable (Binary64.ofRat q = .finite q))
  | .nan => .isTrue trivial
  | .inf _ => .isTrue trivial
  | .negZero => .isTrue trivial

namespace Json

/-- The zeros are written alike but for the sign. -/
theorem parseMagnitude?_zero (negative : Bool) {rest : Text} (hrest : EndsNumber rest) :
    parseMagnitude? negative ([48, 46, 48] ++ rest) =
      some (.float (Binary64.zero negative), rest) := by
  have hzero : Text.IsDigits [48] := Text.isDigits_replicate 1
  exact parseMagnitude?_fraction negative hzero (by simp) hzero (by simp)
    (parseExponent?_of_ends hrest) fun c hc => ⟨(hrest c hc).1, (hrest c hc).2.1⟩

/-- **A double comes back** in every layout, if it is finite. -/
theorem parseNumber?_render (l : Layout) {x : Binary64} (hfinite : x.isFinite = true)
    (hdouble : x.IsDouble) {rest : Text} (hrest : EndsNumber rest) :
    parseNumber? (l.render x ++ rest) = some (.float x, rest) := by
  cases x with
  | nan => cases hfinite
  | inf negative => cases hfinite
  | negZero => exact parseMagnitude?_zero true hrest
  | finite q =>
    simp only [Layout.render]
    rcases lt_trichotomy q 0 with hq | rfl | hq
    · have hmagnitude : Binary64.ofRat (-q) = .finite (-q) := by
        have h := nearest_of_ofRat hdouble
        refine ofRat_of_nearest (neg_pos.mpr hq) (neg_pos.mpr hq) ?_ ?_
        · rw [← abs_of_neg hq]
          exact h.2
        · rw [nearest_neg, h.1]
      have hread := parseMagnitude?_positive l true (neg_pos.mpr hq) hmagnitude hrest
      rw [if_pos rfl, neg_neg] at hread
      rw [if_neg hq.ne, if_pos hq]
      exact hread
    · exact parseNumber?_of_parseMagnitude? (parseMagnitude?_zero false hrest)
    · rw [if_neg hq.ne', if_neg hq.le.not_gt]
      exact parseNumber?_of_parseMagnitude? (parseMagnitude?_positive l false hq hdouble hrest)

end Json
end ThreatScan
