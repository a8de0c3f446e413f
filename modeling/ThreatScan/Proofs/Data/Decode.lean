/-
# What a decoded value has passed

A decoder is put together from a few combinators.  Each has a lemma here that says when it gives
a value, so that a decoded record can be taken apart again into the checks on its members.
-/
import ThreatScan.Data.Decode

namespace ThreatScan

/-! ## 1. Checked values -/

namespace Checked

variable {α β : Type}

theorem map_eq_valid {f : α → β} {a : Checked α} {b : β} :
    f <$> a = .valid b ↔ ∃ x, a = .valid x ∧ f x = b := by
  show map f a = .valid b ↔ _
  cases a <;> simp [map]

theorem seq_eq_valid {f : Checked (α → β)} {a : Checked α} {b : β} :
    f <*> a = .valid b ↔ ∃ g, f = .valid g ∧ ∃ x, a = .valid x ∧ g x = b := by
  show seq f a = .valid b ↔ _
  cases f <;> cases a <;> simp [seq]

theorem andThen_eq_valid {a : Checked α} {f : α → Checked β} {b : β} :
    a.andThen f = .valid b ↔ ∃ x, a = .valid x ∧ f x = .valid b := by
  cases a <;> simp [andThen]

theorem within_eq_valid {step : Step} {a : Checked α} {x : α} :
    a.within step = .valid x ↔ a = .valid x := by
  cases a <;> simp [within]

end Checked

/-! ## 2. Members and bounds -/

namespace Decode

variable {α : Type}

theorem required_eq_valid {name : Text} {d : Decoder α} {ms : Members} {a : α} :
    required name d ms = .valid a ↔ ∃ j, ms.lookup name = some j ∧ d j = .valid a := by
  unfold required
  cases ms.lookup name <;> simp [Checked.within_eq_valid]

theorem record_eq_valid {name : Text} {f : Members → Checked α} {j : Json} {a : α} :
    record name f j = .valid a ↔ ∃ ms, j = .object ms ∧ f ms = .valid a := by
  cases j <;> simp [record, Checked.broken]

/-- A number that was decoded within bounds keeps them. -/
theorem numberIn_eq_valid {b : Bounds} {j : Json} {x : Binary64} :
    numberIn b j = .valid x ↔ number j = .valid x ∧ b.brokenByNumber x = none := by
  simp only [numberIn, Checked.andThen_eq_valid]
  constructor
  · rintro ⟨y, hy, h⟩
    cases hb : b.brokenByNumber y with
    | some r => simp [hb, Checked.broken] at h
    | none =>
      obtain rfl : y = x := by simpa [hb] using h
      exact ⟨hy, hb⟩
  · rintro ⟨hx, hb⟩
    exact ⟨x, hx, by simp [hb]⟩

end Decode
end ThreatScan
