/-
# Points in time come back

A timestamp is written with a fixed number of digits for each of its parts.  `IsProper` says when
these digits suffice and the date is one of the calendar.  The text of a proper timestamp is read as
that timestamp, except that nothing is written of an offset but its whole minutes (`ofText?_text`).
A zone may be off by some seconds more, and these are lost.
-/
import ThreatScan.Report.Timestamp
import ThreatScan.Proofs.Number.Numerals

namespace ThreatScan
namespace Timestamp

/-! ## 1. Proper timestamps -/

/-- A day of the calendar, a time of that day, and an offset of less than a day. -/
structure IsProper (t : Timestamp) : Prop where
  year : t.year < 10000
  month : 1 ≤ t.month ∧ t.month ≤ 12
  day : 1 ≤ t.day ∧ t.day ≤ daysIn t.year t.month
  hour : t.hour ≤ 23
  minute : t.minute ≤ 59
  second : t.second ≤ 59
  microsecond : t.microsecond < 1000000
  offset : ∀ o ∈ t.offset, o.natAbs < 86400

/-- The whole minutes of an offset, in seconds. -/
def wholeMinutes (offset : ℤ) : ℤ :=
  if offset < 0 then -(offset.natAbs / 60 * 60 : ℕ) else (offset.natAbs / 60 * 60 : ℕ)

theorem wholeMinutes_eq_iff {o : ℤ} : wholeMinutes o = o ↔ o % 60 = 0 := by
  unfold wholeMinutes
  split <;> omega

/-- What is written of a timestamp. -/
def inMinutes (t : Timestamp) : Timestamp := { t with offset := t.offset.map wholeMinutes }

/-- Everything is written exactly if the offset consists of whole minutes. -/
theorem inMinutes_eq_iff {t : Timestamp} : t.inMinutes = t ↔ ∀ o ∈ t.offset, o % 60 = 0 := by
  obtain ⟨_, _, _, _, _, _, _, offset⟩ := t
  cases offset with
  | none => simp [inMinutes]
  | some o => simp [inMinutes, wholeMinutes_eq_iff]

theorem daysIn_le (year month : ℕ) : daysIn year month ≤ 31 := by
  unfold daysIn
  repeat' split
  all_goals omega

/-! ## 2. Reading the parts -/

section Parts

variable {n v : ℕ} {t : Text}

theorem length_digits (hn : 1 ≤ n) (hv : v < 10 ^ n) : (digits n v).length = n :=
  Decimal.length_digitText hn hv

theorem take?_digits (hn : 1 ≤ n) (hv : v < 10 ^ n) : take? n (digits n v ++ t) = some (v, t) := by
  have hlength := length_digits hn hv
  have htake : (digits n v ++ t).take n = digits n v := List.take_left' hlength
  have hdrop : (digits n v ++ t).drop n = t := List.drop_left' hlength
  have hdigits : (digits n v).all Json.isDigit = true :=
    List.all_eq_true.mpr (Decimal.isDigits_digitText n v)
  have hvalue : Json.decimalValue (digits n v) = v := Decimal.decimalValue_digitText n v
  simp [take?, htake, hdrop, hlength, hdigits, hvalue]

theorem date?_append {y m d : ℕ} (hy : y < 10000) (hm : 1 ≤ m ∧ m ≤ 12)
    (hd : 1 ≤ d ∧ d ≤ daysIn y m) :
    date? (digits 4 y ++ 45 :: (digits 2 m ++ 45 :: (digits 2 d ++ t))) = some (y, m, d, t) := by
  have hdays := daysIn_le y m
  have hyear (u : Text) : take? 4 (digits 4 y ++ u) = some (y, u) :=
    take?_digits (by omega) (by omega)
  have hmonth (u : Text) : take? 2 (digits 2 m ++ u) = some (m, u) :=
    take?_digits (by omega) (by omega)
  have hday : take? 2 (digits 2 d ++ t) = some (d, t) := take?_digits (by omega) (by omega)
  simp [date?, hyear, hmonth, hday, after?, hm, hd]

theorem seconds?_append {s us : ℕ} (hs : s ≤ 59) (hus : us < 1000000)
    (ht : ∀ c ∈ t.head?, Json.isDigit c = false ∧ c ≠ 46) :
    seconds? (58 :: (digits 2 s ++ ((if us = 0 then [] else 46 :: digits 6 us) ++ t))) =
      some (s, us, t) := by
  have hsecond (u : Text) : take? 2 (digits 2 s ++ u) = some (s, u) :=
    take?_digits (by omega) (by omega)
  have hrange : ¬ 59 < s := by omega
  split
  case isTrue hzero =>
    subst hzero
    have hnext : ∀ u, t ≠ 46 :: u := by
      rintro u rfl
      exact (ht 46 rfl).2 rfl
    simp [seconds?, hsecond, hrange]
  case isFalse =>
    have hlength : (digits 6 us).length = 6 := length_digits (by omega) (by omega)
    have hread : Json.digitsOf (digits 6 us ++ t) = (digits 6 us, t) :=
      Json.digitsOf_append (Decimal.isDigits_digitText 6 us) fun c hc => (ht c hc).1
    have hne : digits 6 us ≠ [] := List.ne_nil_of_length_pos (by omega)
    have hcut : Json.decimalValue ((digits 6 us ++ [48, 48, 48, 48, 48, 48]).take 6) = us := by
      rw [List.take_left' hlength]
      exact Decimal.decimalValue_digitText 6 us
    rw [List.cons_append]
    simp [seconds?, hsecond, hrange, hread, hne, hcut]

/-- What is written of an offset. -/
def zoneText : Option ℤ → Text
  | none => []
  | some 0 => [90]
  | some o => offsetText o

theorem head_zoneText (o : Option ℤ) :
    ∀ c ∈ (zoneText o).head?, Json.isDigit c = false ∧ c ≠ 46 := by
  intro c hc
  unfold zoneText at hc
  split at hc
  case h_1 => cases hc
  case h_2 =>
    cases hc
    decide
  case h_3 =>
    unfold offsetText at hc
    split at hc <;> cases hc <;> decide

theorem offset?_offsetText {o : ℤ} (hday : o.natAbs < 86400) :
    offset? (offsetText o) = some (some (wholeMinutes o)) := by
  obtain ⟨n, hn⟩ : ∃ n : ℕ, o.natAbs = n := ⟨_, rfl⟩
  have hhours (u : Text) : take? 2 (digits 2 (n / 3600) ++ u) = some (n / 3600, u) :=
    take?_digits (by omega) (by omega)
  have hrest := take?_digits (n := 2) (v := n / 60 % 60) (t := []) (by omega) (by omega)
  rw [List.append_nil] at hrest
  have hrange : n / 3600 ≤ 23 ∧ n / 60 % 60 ≤ 59 := by omega
  rw [offsetText, wholeMinutes, hn]
  split
  all_goals
    simp [offset?, hhours, hrest, after?, hrange]
    omega

theorem offset?_zoneText {o : Option ℤ} (h : ∀ x ∈ o, x.natAbs < 86400) :
    offset? (zoneText o) = some (o.map wholeMinutes) := by
  unfold zoneText
  split
  case h_1 => rfl
  case h_2 => rfl
  case h_3 o _ => exact offset?_offsetText (h o rfl)

end Parts

/-! ## 3. Reading the whole -/

/-- **A proper timestamp comes back** up to the seconds of its offset. -/
theorem ofText?_text {t : Timestamp} (h : t.IsProper) : ofText? t.text = some t.inMinutes := by
  have hhour (u : Text) : take? 2 (digits 2 t.hour ++ u) = some (t.hour, u) :=
    take?_digits (by omega) (by have := h.hour; omega)
  have hminute (u : Text) : take? 2 (digits 2 t.minute ++ u) = some (t.minute, u) :=
    take?_digits (by omega) (by have := h.minute; omega)
  have htext : t.text = digits 4 t.year ++ 45 :: (digits 2 t.month ++ 45 :: (digits 2 t.day ++
      84 :: (digits 2 t.hour ++ 58 :: (digits 2 t.minute ++ 58 :: (digits 2 t.second ++
        ((if t.microsecond = 0 then [] else 46 :: digits 6 t.microsecond) ++
          zoneText t.offset)))))) := by
    simp only [text, localText, fractionText, List.append_assoc, List.cons_append, List.nil_append]
    rfl
  have hseconds := seconds?_append h.second h.microsecond (head_zoneText t.offset)
  rw [htext]
  simp [ofText?, date?_append h.year h.month h.day, after?, hhour, hminute, hseconds,
    offset?_zoneText h.offset, h.hour, h.minute, inMinutes]

end Timestamp
end ThreatScan
