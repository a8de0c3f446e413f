/-
# The tables for code and layout

No shipped rule for code heeds the blanks around a line.  Most patterns are framed, which their
classes tell.  The rules from a source to a sink start at the beginning of the line instead: they
look for the first source from there, and it starts with no blank, so they might as well start
behind the blanks (`ends_append_of_blank`).

The two tables for whole contents have no line feed in a pattern, with one exception, which is
loose; so what they find in a text they find in its stripped lines (`count_obfuscation`,
`performance_occurs_iff`).
-/
import ThreatScan.Assess.Quality
import ThreatScan.Catalog.Indicators
import ThreatScan.Proofs.Catalog.Code
import ThreatScan.Proofs.Pattern.Respaced

namespace ThreatScan

open Text (IsBlank isBlank newline strippedLines trim)

namespace Pattern

variable {p q : Pattern}

/-! ## 1. Patterns of lines -/

/-- On a line the pattern does not heed the blanks on both sides. -/
structure IgnoresMargins (p : Pattern) : Prop where
  trim : ∀ l, newline ∉ l → p.count (trim l) = p.count l
  nil : p.count [] = 0

theorem IsFramed.ignoresMargins (hp : p.IsFramed) : p.IgnoresMargins where
  trim l _ := hp.count_trim l
  nil := count_nil hp.length hp.floating

/-- Behind the beginning of the text there is no occurrence of an anchored pattern. -/
theorem scan_atStart_of_pos (q : Pattern) {offset : ℕ} (hoffset : 0 < offset) (t : Text)
    (skip : ℕ) : (seq atStart q).scan offset t skip = [] := by
  have hends (t : Text) : (seq atStart q).ends ⟨offset, t⟩ = [] := by
    rw [ends, ends, if_neg (Nat.ne_of_gt hoffset)]
    rfl
  induction t generalizing offset skip with
  | nil =>
    rw [scan, startingAt_eq_nil_iff.mpr (hends [])]
    exact ite_self _
  | cons x t ih =>
    have hlater : ∀ skip, (seq atStart q).scan (offset + 1) t skip = [] := by
      intro skip
      refine ih (Nat.succ_pos offset) skip ?_
      intro t
      rw [ends, ends, if_neg (Nat.succ_ne_zero offset)]
      rfl
    cases skip with
    | succ skip => exact hlater skip
    | zero =>
      rw [scan, startingAt_eq_nil_iff.mpr (hends (x :: t))]
      exact hlater 0

/-- **A pattern from the beginning of the text occurs once or not at all.** -/
theorem count_atStart (hq : 0 < q.leastLength) (t : Text) :
    (seq atStart q).count t = if q.ends ⟨0, t⟩ = [] then 0 else 1 := by
  have hlength : 0 < (seq atStart q).leastLength := by
    rw [leastLength, leastLength, Nat.zero_add]
    exact hq
  have hends : (seq atStart q).ends ⟨0, t⟩ = q.ends ⟨0, t⟩ := by
    rw [ends, ends, if_pos rfl]
    exact List.append_nil _
  rw [count_eq_length_scan]
  cases t with
  | nil =>
    rw [if_pos (ends_nil_eq_nil hq 0), scan, if_pos rfl, startingAt_eq hlength,
      ends_nil_eq_nil hlength 0]
    rfl
  | cons x t =>
    rw [scan, startingAt_eq hlength, hends]
    cases q.ends ⟨0, x :: t⟩ with
    | nil => exact congrArg List.length (scan_atStart_of_pos q Nat.one_pos t 0)
    | cons d ds => simp [scan_atStart_of_pos q Nat.one_pos]

end Pattern

namespace Shipped

open Pattern

/-! ## 2. Rules from a source to a sink -/

/-- What leads from the first source to a sink may as well start behind blanks. -/
theorem ends_append_of_blank {p : Pattern} (ps : List Pattern) (hp : p.startsSolid = true)
    {b : Text} (hb : IsBlank b) (hline : newline ∉ b) (offset : ℕ) (t : Text) :
    (sequence (firstUpTo p :: ps)).ends ⟨offset, b ++ t⟩ =
      (sequence (firstUpTo p :: ps)).ends ⟨offset + b.length, t⟩ := by
  induction b generalizing offset with
  | nil => rfl
  | cons x b ih =>
    obtain ⟨hx, hb⟩ := List.forall_mem_cons.mp hb
    obtain ⟨hne, hline⟩ := not_or.mp (List.mem_cons.not.mp hline)
    have hinLine : CharClass.inLine.has x = true := by
      simpa [CharClass.has, CharClass.inLine, newline] using Ne.symm hne
    rw [List.cons_append, ends_sequence_cons,
      ends_firstUpTo_cons hinLine (ends_eq_nil_of_blank hp hx offset (b ++ t)),
      ← ends_sequence_cons, ih hb hline, List.length_cons]
    congr 2
    omega

/-- The parts of a rule from a source to a sink, behind the beginning of the line. -/
def flowParts (sources : List Pattern) (sinks : List Text) : Pattern :=
  sequence (sources.map firstUpTo ++ [shortGap, words sinks])

/-- **A rule from a source to a sink does not heed the blanks around a line.** -/
theorem ignoresMargins_flow {p : Pattern} {sources : List Pattern} {sinks : List Text}
    (hp : p.startsSolid = true) (hparts : (flowParts (p :: sources) sinks).IsClosed) :
    (flow (p :: sources) sinks).IgnoresMargins := by
  have hcount (t : Text) : (flow (p :: sources) sinks).count t =
      if (flowParts (p :: sources) sinks).ends ⟨0, t⟩ = [] then 0 else 1 :=
    count_atStart hparts.length t
  constructor
  · intro l hl
    obtain ⟨b, b', ht, hb, hb'⟩ := Text.exists_trim l
    have hline : newline ∉ b := fun h => hl (ht ▸ List.mem_append_left _ h)
    have hfront : (flowParts (p :: sources) sinks).ends ⟨0, l⟩ =
        (flowParts (p :: sources) sinks).ends
          (((⟨0, trim l⟩ : Cursor).extend b').shift b.length) := by
      conv_lhs => rw [ht]
      rw [flowParts, List.map_cons, List.cons_append, ends_append_of_blank _ hp hb hline]
      congr 2
      exact Nat.add_comm _ _
    have hback : (flowParts (p :: sources) sinks).ends ⟨0, l⟩ = [] ↔
        (flowParts (p :: sources) sinks).ends ⟨0, trim l⟩ = [] := by
      rw [hfront, ends_shift hparts.floating, hparts.ends_extend hb', List.map_eq_nil_iff,
        List.map_eq_nil_iff]
    rw [hcount, hcount]
    simp only [hback]
  · rw [hcount, if_pos (ends_nil_eq_nil hparts.length 0)]

/-! ## 3. Tables -/

theorem vulnerabilities_ignoreMargins : ∀ s ∈ vulnerabilities, s.pattern.IgnoresMargins := by
  have hframed : vulnerabilities[2].pattern.IsFramed ∧ vulnerabilities[3].pattern.IsFramed := by
    decide +kernel
  intro s hs
  simp only [vulnerabilities, List.mem_cons, List.not_mem_nil, or_false] at hs
  rcases hs with rfl | rfl | rfl | rfl | rfl
  · exact ignoresMargins_flow (by decide +kernel) (by decide +kernel)
  · exact ignoresMargins_flow (by decide +kernel) (by decide +kernel)
  · exact hframed.1.ignoresMargins
  · exact hframed.2.ignoresMargins
  · exact ignoresMargins_flow (by decide +kernel) (by decide +kernel)

theorem advancedVulnerabilities_ignoreMargins :
    ∀ s ∈ advancedVulnerabilities, s.pattern.IgnoresMargins := by
  have hframed : advancedVulnerabilities[3].pattern.IsFramed ∧
      advancedVulnerabilities[4].pattern.IsFramed := by
    decide +kernel
  intro s hs
  simp only [advancedVulnerabilities, List.mem_cons, List.not_mem_nil, or_false] at hs
  rcases hs with rfl | rfl | rfl | rfl | rfl
  · exact ignoresMargins_flow (by decide +kernel) (by decide +kernel)
  · exact ignoresMargins_flow (by decide +kernel) (by decide +kernel)
  · exact ignoresMargins_flow (by decide +kernel) (by decide +kernel)
  · exact hframed.1.ignoresMargins
  · exact hframed.2.ignoresMargins

theorem branches_isFramed : ∀ p ∈ Quality.branches, p.IsFramed := by decide +kernel

/-- **The signs of obfuscation occur as often as in the stripped lines.** -/
theorem count_obfuscation {s : Signature} (hs : s ∈ obfuscation) (t : Text) :
    s.pattern.count t = ((strippedLines t).map s.pattern.count).sum := by
  have htable : ∀ s ∈ obfuscation, s.pattern.IsFramed ∧ s.pattern.excludes newline = true := by
    decide +kernel
  obtain ⟨hframed, hnewline⟩ := htable s hs
  exact hframed.count_eq_sum hnewline t

/-- **What costs time occurs in texts of the same stripped lines alike.** -/
theorem performance_occurs_iff {s : Signature} (hs : s ∈ performance) {t t' : Text}
    (h : strippedLines t = strippedLines t') : 0 < s.pattern.count t ↔ 0 < s.pattern.count t' := by
  have htable : ∀ s ∈ performance, s.pattern.IsFramed ∧
      (s.pattern.excludes newline = true ∨ s.pattern.isLoose = true) := by
    decide +kernel
  obtain ⟨hframed, hnewline | hloose⟩ := htable s hs
  · rw [hframed.count_eq_sum hnewline, hframed.count_eq_sum hnewline t', h]
  · rw [count_pos_iff_stacked hloose hframed, count_pos_iff_stacked hloose hframed t', h]

end Shipped
end ThreatScan
