/-
# The case of ASCII letters

Two texts are recased if they differ in the case of ASCII letters only, so that they are the same
once `lowerAscii` has made those letters small.  A function of code points takes no notice of that
if it gives the same for each of the 26 letters and its capital (`apply_lowerAscii`), and from there
it goes on to texts: the number of bytes, the surrogates, the lines, and the two things that are
read off the name of a file, its lower case and its ending.
-/
import ThreatScan.Proofs.Text.Lines
import ThreatScan.Proofs.Text.Utf8
import ThreatScan.Report.Nature

namespace ThreatScan
namespace Text

/-! ## 1. Code points -/

/-- The small letter for a capital letter of ASCII; any other code point stays. -/
def lowerAscii (c : CodePoint) : CodePoint := if 65 ≤ c ∧ c ≤ 90 then c + 32 else c

/-- The texts differ in the case of ASCII letters only. -/
def Recased (t t' : Text) : Prop := t.map lowerAscii = t'.map lowerAscii

instance (t t' : Text) : Decidable (Recased t t') := inferInstanceAs (Decidable (_ = _))

/-- **It is enough to look at the letters**: a function that does not tell each of them from its
capital does not depend on case. -/
theorem apply_lowerAscii {α : Type} {f : ℕ → α} (h : ∀ i < 26, f (65 + i) = f (97 + i))
    (c : CodePoint) : f (lowerAscii c) = f c := by
  rw [lowerAscii]
  split
  case isTrue hc =>
    obtain ⟨i, rfl⟩ := Nat.exists_eq_add_of_le hc.1
    have hi : i < 26 := Nat.lt_of_add_lt_add_left (Nat.lt_succ_of_le hc.2)
    rw [h i hi, Nat.add_right_comm]
  case isFalse => rfl

theorem isSurrogate_lowerAscii (c : CodePoint) : isSurrogate (lowerAscii c) = isSurrogate c :=
  apply_lowerAscii (by decide) c

theorem byteCount_lowerAscii (c : CodePoint) : byteCount (lowerAscii c) = byteCount c :=
  apply_lowerAscii (by decide) c

theorem lowerOne_lowerAscii (c : CodePoint) : lowerOne (lowerAscii c) = lowerOne c :=
  apply_lowerAscii (by decide) c

/-- What is no letter is the small form of itself only. -/
theorem lowerAscii_eq_iff {c d : ℕ} (hd : d < 65 ∨ 122 < d) : lowerAscii c = d ↔ c = d := by
  show (if 65 ≤ c ∧ c ≤ 90 then c + 32 else c) = d ↔ c = d
  split <;> omega

/-! ## 2. Bytes and lines -/

theorem exists_isSurrogate_map_lowerAscii {t : Text} :
    (∃ c ∈ t.map lowerAscii, isSurrogate c) ↔ ∃ c ∈ t, isSurrogate c := by
  simp [isSurrogate_lowerAscii]

theorem length_encode_map_lowerAscii (t : Text) :
    (encode (t.map lowerAscii)).length = (encode t).length := by
  have hone (c : CodePoint) : (encodeOne (lowerAscii c)).length = (encodeOne c).length := by
    rw [length_encodeOne, length_encodeOne, byteCount_lowerAscii]
  simp only [encode, List.flatMap_map, List.length_flatMap, hone]

theorem splitGo_map {f : CodePoint → CodePoint} {sep : CodePoint} (hf : ∀ c, f c = sep ↔ c = sep)
    (t piece : Text) (done : List Text) :
    splitGo sep (t.map f) (piece.map f) (done.map (·.map f)) =
      (splitGo sep t piece done).map (·.map f) := by
  induction t generalizing piece done with
  | nil => simp [splitGo]
  | cons c t ih =>
    rw [List.map_cons, splitGo, splitGo]
    by_cases hc : c = sep
    · rw [if_pos hc, if_pos ((hf c).mpr hc), ← ih]
      simp
    · rw [if_neg hc, if_neg (mt (hf c).mp hc), ← ih]
      rfl

/-- **A map that keeps the line feeds apart keeps the lines.** -/
theorem lines_map {f : CodePoint → CodePoint} (hf : ∀ c, f c = newline ↔ c = newline) (t : Text) :
    lines (t.map f) = (lines t).map (·.map f) :=
  splitGo_map hf t [] []

theorem lines_map_lowerAscii (t : Text) :
    lines (t.map lowerAscii) = (lines t).map (·.map lowerAscii) :=
  lines_map (fun _ => lowerAscii_eq_iff (by decide)) t

/-! ## 3. Names -/

theorem meetsLetter_map_lowerAscii (t : Text) : meetsLetter (t.map lowerAscii) = meetsLetter t := by
  have hskipped : (fun c => inRanges c skippedRanges) ∘ lowerAscii =
      fun c => inRanges c skippedRanges :=
    funext (apply_lowerAscii (f := fun c => inRanges c skippedRanges) (by decide +kernel))
  have hcased (c : CodePoint) : inRanges (lowerAscii c) casedRanges = inRanges c casedRanges :=
    apply_lowerAscii (f := fun c => inRanges c casedRanges) (by decide +kernel) c
  rw [meetsLetter, meetsLetter, List.dropWhile_map, hskipped]
  cases t.dropWhile fun c => inRanges c skippedRanges with
  | nil => rfl
  | cons c t => exact hcased c

theorem lowerAt_map_lowerAscii (before : Text) (c : CodePoint) (after : Text) :
    lowerAt (before.map lowerAscii) (lowerAscii c) (after.map lowerAscii) =
      lowerAt before c after := by
  have hdotted : lowerAscii c = 0x130 ↔ c = 0x130 := lowerAscii_eq_iff (by decide)
  have hsigma : lowerAscii c = capitalSigma ↔ c = capitalSigma := lowerAscii_eq_iff (by decide)
  simp only [lowerAt, hdotted, hsigma, meetsLetter_map_lowerAscii, lowerOne_lowerAscii]

theorem lowerFrom_map_lowerAscii (before t : Text) :
    lowerFrom (before.map lowerAscii) (t.map lowerAscii) = lowerFrom before t := by
  induction t generalizing before with
  | nil => rfl
  | cons c t ih =>
    rw [List.map_cons, lowerFrom, lowerFrom, lowerAt_map_lowerAscii, ← List.map_cons, ih]

/-- **The lower case of a text is that of a recased one.** -/
theorem lowercase_map_lowerAscii (t : Text) : lowercase (t.map lowerAscii) = lowercase t :=
  lowerFrom_map_lowerAscii [] t

end Text

/-- The ending of a name is that of a recased one. -/
theorem MediaType.ending_map_lowerAscii (name : Text) :
    ending (name.map Text.lowerAscii) = ending name := by
  have hpoint (c : CodePoint) : Text.lowerAscii c = 46 ↔ c = 46 :=
    Text.lowerAscii_eq_iff (by decide)
  have hcontains : (name.map Text.lowerAscii).contains 46 = name.contains 46 := by
    rw [Bool.eq_iff_iff, List.contains_iff_mem, List.contains_iff_mem, List.mem_map]
    simp [hpoint]
  have hstop : (fun c => c != 46) ∘ Text.lowerAscii = fun c : CodePoint => c != 46 := by
    funext c
    rw [Function.comp_apply, Bool.eq_iff_iff, bne_iff_ne, bne_iff_ne, not_iff_not]
    exact hpoint c
  rw [ending, ending, hcontains, ← List.map_reverse, List.takeWhile_map, hstop, ← List.map_reverse,
    Text.lowercase_map_lowerAscii]

end ThreatScan
