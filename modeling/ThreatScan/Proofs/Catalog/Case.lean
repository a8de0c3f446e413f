/-
# The tables do not look at case

A class of code points takes no notice of the case of ASCII letters if it lists none of them, or if
it tests the lower case of a code point.  All shipped patterns are built from such classes, so none
tells a text from a recased one.
-/
import ThreatScan.Catalog.Basic
import ThreatScan.Proofs.Pattern.Image
import ThreatScan.Proofs.Text.Case

namespace ThreatScan

open Text (lowerAscii)

namespace CharClass

/-- The class tests the lower case of a code point, or it lists no letter of ASCII. -/
def ignoresCase : CharClass → Bool
  | .within rs => rs.all fun r => r.2 < 65 || 122 < r.1
  | .lowerWithin _ => true
  | .noneOf cs => cs.all fun c => c < 65 || 122 < c
  | .blank => true

/-- Ranges without letters do not cover one. -/
theorem covers_letter {rs : List (CodePoint × CodePoint)}
    (h : rs.all (fun r => r.2 < 65 || 122 < r.1) = true) {c : ℕ} (hc : 65 ≤ c ∧ c ≤ 122) :
    covers c rs = false := by
  induction rs with
  | nil => rfl
  | cons r rs ih =>
    rw [List.all_cons, Bool.and_eq_true] at h
    obtain ⟨(a : ℕ), (b : ℕ)⟩ := r
    have hr : b < 65 ∨ 122 < a := by simpa using h.1
    have hrange : ¬ (a ≤ c ∧ c ≤ b) := by omega
    rw [covers, ih h.2, Bool.or_false]
    simpa using hrange

/-- **Such a class does not tell a letter from its capital.** -/
theorem has_lowerAscii {k : CharClass} (hk : k.ignoresCase = true) (x : CodePoint) :
    k.has (lowerAscii x) = k.has x := by
  cases k with
  | within rs =>
    refine Text.apply_lowerAscii ?_ x
    intro i hi
    rw [has, has, covers_letter hk (by omega), covers_letter hk (by omega)]
  | lowerWithin rs => exact congrArg (covers · rs) (Text.lowerOne_lowerAscii x)
  | noneOf cs =>
    have hletter {c : ℕ} (hc : 65 ≤ c ∧ c ≤ 122) : cs.contains c = false := by
      refine Bool.eq_false_iff.mpr ?_
      intro hcontains
      have hmem : c ∈ cs := List.contains_iff_mem.mp hcontains
      have hno : c < 65 ∨ 122 < c := by simpa using List.all_eq_true.mp hk c hmem
      omega
    refine Text.apply_lowerAscii ?_ x
    intro i hi
    rw [has, has, hletter (by omega), hletter (by omega)]
  | blank => exact Text.apply_lowerAscii (f := Text.isBlank) (by decide) x

end CharClass

/-- **No shipped pattern looks at case.** -/
theorem Catalog.isBlindTo_lowerAscii (t : Catalog.Table) :
    ∀ s ∈ Catalog.default.table t, s.pattern.IsBlindTo lowerAscii := by
  have htable : ∀ s ∈ Catalog.default.table t, s.pattern.classes.all CharClass.ignoresCase := by
    cases t <;> decide +kernel
  intro s hs k hk
  exact CharClass.has_lowerAscii (List.all_eq_true.mp (htable s hs) k hk)

end ThreatScan
