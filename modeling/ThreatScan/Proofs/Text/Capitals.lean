/-
# What goes to a small letter

`lowerOne` takes a capital to its small letter.  The other way round a letter has few sources, and
they can be read off the table of the runs: `sources` lists them, and nothing else goes there
(`mem_sources`).  So a question about all forms of the letters of a class is one about a short list.

`IsAlphanumeric` and `IsHexDigit` say without the table what the two classes hold that ignore case:
the letters and digits of ASCII, and for the first one also the four other code points that a letter
of ASCII is a form of.
-/
import ThreatScan.Proofs.Pattern.Alternatives
import ThreatScan.Proofs.Text.Spelling

namespace ThreatScan
namespace Text

/-! ## 1. Sources -/

/-- The code point that a run takes to `d`, if there is one. -/
def LowerRun.source? (r : LowerRun) (d : CodePoint) : Option CodePoint :=
  if r.target ≤ d ∧ r.first + (d - r.target) ≤ r.last then some (r.first + (d - r.target))
  else none

/-- What the lower case of may be `d`. -/
def sources (d : CodePoint) : List CodePoint :=
  d :: (if 97 ≤ d ∧ d ≤ 122 then [d - 32] else []) ++
    lowerBlocks.flatMap fun b => b.runs.filterMap (·.source? d)

theorem source?_of_takes {r : LowerRun} {c d : ℕ} (h : r.Takes c d) : r.source? d = some c := by
  obtain ⟨hfirst, hlast, rfl⟩ := h
  have hback : r.first + (r.target + (c - r.first) - r.target) = c := by omega
  rw [LowerRun.source?, hback, if_pos ⟨Nat.le_add_right _ _, hlast⟩]

/-- **Nothing but its sources goes to a small letter.** -/
theorem mem_sources {c d : ℕ} (h : lowerOne c = d) : c ∈ sources d := by
  rcases lowerOne_cases h with rfl | ⟨hlow, hhigh, rfl⟩ | ⟨b, hb, r, hr, htakes⟩
  · exact List.mem_cons_self
  · have hsmall : 97 ≤ c + 32 ∧ c + 32 ≤ 122 := by omega
    simp [sources, hsmall]
  · refine List.mem_append_right _ (List.mem_flatMap.mpr ⟨b, hb, ?_⟩)
    exact List.mem_filterMap.mpr ⟨r, hr, source?_of_takes htakes⟩

/-! ## 2. Letters and digits -/

/-- A digit of ASCII. -/
def IsDigit (c : ℕ) : Prop := 48 ≤ c ∧ c ≤ 57

instance (c : ℕ) : Decidable (IsDigit c) := inferInstanceAs (Decidable (_ ∧ _))

/-- A hexadecimal digit in any case. -/
def IsHexDigit (c : ℕ) : Prop := IsDigit c ∨ 65 ≤ c ∧ c ≤ 70 ∨ 97 ≤ c ∧ c ≤ 102

instance (c : ℕ) : Decidable (IsHexDigit c) := inferInstanceAs (Decidable (_ ∨ _))

/-- A digit or letter of ASCII, or another form of one in some case: the dotted capital i, the
dotless small i, the long s and the sign for kelvin. -/
def IsAlphanumeric (c : ℕ) : Prop :=
  IsDigit c ∨ 65 ≤ c ∧ c ≤ 90 ∨ 97 ≤ c ∧ c ≤ 122 ∨ c ∈ [0x130, 0x131, 0x17F, 0x212A]

instance (c : ℕ) : Decidable (IsAlphanumeric c) := inferInstanceAs (Decidable (_ ∨ _))

end Text

namespace CharClass

open Text (IsAlphanumeric IsHexDigit sources)

/-- **A class by lower case holds sources only**, those of the letters in its ranges. -/
theorem of_has_lowerWithin {rs : List (CodePoint × CodePoint)} {P : CodePoint → Prop}
    (hsources : ∀ r ∈ rs, ∀ d ∈ List.range' r.1 (r.2 + 1 - r.1), ∀ c ∈ sources d, P c)
    {c : CodePoint} (h : (lowerWithin rs).has c = true) : P c := by
  obtain ⟨r, hr, hlow, hhigh⟩ := exists_of_covers h
  refine hsources r hr _ (List.mem_range'_1.mpr ⟨hlow, ?_⟩) c (Text.mem_sources rfl)
  rw [Nat.add_sub_of_le (Nat.le_succ_of_le (Nat.le_trans hlow hhigh))]
  exact Nat.lt_succ_of_le hhigh

theorem has_alphanumericAnyCase (c : ℕ) :
    alphanumericAnyCase.has c = true ↔ IsAlphanumeric c := by
  constructor
  · exact of_has_lowerWithin (by decide +kernel)
  · intro h
    have hascii : ∀ c < 123, IsAlphanumeric c → alphanumericAnyCase.has c = true := by
      decide +kernel
    have hother : ∀ c ∈ [0x130, 0x131, 0x17F, 0x212A], alphanumericAnyCase.has c = true := by
      decide +kernel
    rcases h with hdigit | ⟨hlow, hhigh⟩ | ⟨hlow, hhigh⟩ | hmem
    · exact hascii c (Nat.lt_of_le_of_lt hdigit.2 (by decide)) (.inl hdigit)
    · exact hascii c (by omega) (.inr (.inl ⟨hlow, hhigh⟩))
    · exact hascii c (by omega) (.inr (.inr (.inl ⟨hlow, hhigh⟩)))
    · exact hother c hmem

theorem has_hexDigit (c : ℕ) : hexDigit.has c = true ↔ IsHexDigit c := by
  constructor
  · exact of_has_lowerWithin (by decide +kernel)
  · have hascii : ∀ c < 103, IsHexDigit c → hexDigit.has c = true := by decide +kernel
    intro h
    refine hascii c ?_ h
    rcases h with ⟨-, hhigh⟩ | ⟨-, hhigh⟩ | ⟨-, hhigh⟩ <;> omega

theorem has_letter_backslash (c : ℕ) : (letter 92).has c = true ↔ c = 92 := by
  constructor
  · exact of_has_lowerWithin (P := (· = 92)) (by decide +kernel)
  · rintro rfl
    decide +kernel

theorem has_letter_x (c : ℕ) : (letter 120).has c = true ↔ c = 120 ∨ c = 88 := by
  constructor
  · exact of_has_lowerWithin (P := fun c => c = 120 ∨ c = 88) (by decide +kernel)
  · rintro (rfl | rfl) <;> decide +kernel

end CharClass
end ThreatScan
