/-
# Digits and the numbers that they write

The digits of a natural number are those of the core library as code points.  What is written with
zeros in front or behind, or is cut in two, still has a value that can be told from its parts.
-/
import ThreatScan.Json.Parser
import ThreatScan.Number.Decimal
import Mathlib.Tactic.Ring

namespace ThreatScan

/-! ## 1. The digits of a number -/

/-- A text of decimal digits only. -/
def Text.IsDigits (t : Text) : Prop := ∀ c ∈ t, Json.isDigit c = true

namespace Text

theorem IsDigits.append {t u : Text} (ht : t.IsDigits) (hu : u.IsDigits) : (t ++ u).IsDigits := by
  intro c hc
  rcases List.mem_append.mp hc with hc | hc
  · exact ht c hc
  · exact hu c hc

theorem isDigits_replicate (n : ℕ) : IsDigits (List.replicate n 48) := by
  intro c hc
  obtain rfl := List.eq_of_mem_replicate hc
  rfl

theorem IsDigits.take {t : Text} (ht : t.IsDigits) (n : ℕ) : IsDigits (t.take n) :=
  fun c hc => ht c (List.mem_of_mem_take hc)

theorem IsDigits.drop {t : Text} (ht : t.IsDigits) (n : ℕ) : IsDigits (t.drop n) :=
  fun c hc => ht c (List.mem_of_mem_drop hc)

theorem ofNat_eq (n : ℕ) : ofNat n = (Nat.toDigits 10 n).map Char.toNat := by
  show (Nat.repr n).toList.map Char.toNat = _
  rw [Nat.toList_repr]

theorem isDigits_ofNat (n : ℕ) : (ofNat n).IsDigits := by
  intro c hc
  rw [ofNat_eq] at hc
  obtain ⟨d, hd, rfl⟩ := List.mem_map.mp hc
  have hdigit := Char.isDigit_iff_toNat.mp (Nat.isDigit_of_mem_toDigits (by omega) (by omega) hd)
  simp only [Json.isDigit, Bool.and_eq_true, decide_eq_true_eq]
  exact hdigit

theorem ofNat_ne_nil (n : ℕ) : ofNat n ≠ [] := by
  rw [ofNat_eq]
  simp [Nat.toDigits_ne_nil]

theorem length_ofNat_le_iff {n k : ℕ} (hk : 0 < k) : (ofNat n).length ≤ k ↔ n < 10 ^ k := by
  rw [ofNat_eq, List.length_map]
  exact Nat.length_toDigits_le_iff (by omega) hk

end Text

/-! ## 2. The number of some digits -/

namespace Json

theorem decimalValue_ofNat (n : ℕ) : decimalValue (Text.ofNat n) = n := by
  rw [Text.ofNat_eq, decimalValue, List.foldl_map]
  exact Nat.ofDigitChars_eq_foldl.symm.trans Nat.ofDigitChars_ten_toDigits

theorem decimalValue_append (ds es : Text) :
    decimalValue (ds ++ es) = decimalValue ds * 10 ^ es.length + decimalValue es := by
  suffices h : ∀ (es : Text) (n : ℕ),
      es.foldl (fun n c => 10 * n + (c - 48)) n = n * 10 ^ es.length + decimalValue es by
    rw [decimalValue, List.foldl_append]
    exact h es _
  intro es
  induction es with
  | nil => intro n; simp [decimalValue]
  | cons c es ih =>
    intro n
    have hcons : decimalValue (c :: es) = es.foldl (fun n c => 10 * n + (c - 48)) (c - 48) := by
      simp [decimalValue]
    rw [hcons, List.foldl_cons, ih, ih, List.length_cons, pow_succ]
    ring

theorem decimalValue_replicate (n : ℕ) : decimalValue (List.replicate n 48) = 0 := by
  induction n with
  | zero => rfl
  | succ n ih =>
    rw [List.replicate_succ', decimalValue_append, ih]
    rfl

theorem decimalValue_zeros_append (n : ℕ) (ds : Text) :
    decimalValue (List.replicate n 48 ++ ds) = decimalValue ds := by
  rw [decimalValue_append, decimalValue_replicate, Nat.zero_mul, Nat.zero_add]

/-- The digits in front are read up to the first code point that is none. -/
theorem digitsOf_append {ds t : Text} (hds : ds.IsDigits) (ht : ∀ c ∈ t.head?, isDigit c = false) :
    digitsOf (ds ++ t) = (ds, t) := by
  have hstop : t.takeWhile isDigit = [] ∧ t.dropWhile isDigit = t := by
    cases t with
    | nil => exact ⟨rfl, rfl⟩
    | cons c t =>
      have hc : isDigit c = false := ht c rfl
      simp [hc]
  rw [digitsOf, List.takeWhile_append_of_pos hds, List.dropWhile_append_of_pos hds, hstop.1,
    hstop.2, List.append_nil]

end Json

/-! ## 3. A given number of digits -/

namespace Decimal

theorem isDigits_digitText (count n : ℕ) : (digitText count n).IsDigits :=
  (Text.isDigits_replicate _).append (Text.isDigits_ofNat n)

theorem length_digitText {count n : ℕ} (hcount : 1 ≤ count) (hn : n < 10 ^ count) :
    (digitText count n).length = count := by
  have hlength := (Text.length_ofNat_le_iff hcount).mpr hn
  rw [digitText, Text.padLeft, List.length_append, List.length_replicate]
  omega

theorem decimalValue_digitText (count n : ℕ) : Json.decimalValue (digitText count n) = n := by
  rw [digitText, Text.padLeft, Json.decimalValue_zeros_append, Json.decimalValue_ofNat]

end Decimal
end ThreatScan
