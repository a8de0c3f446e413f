/-
# The two tables of vulnerabilities

A report lists the vulnerabilities of the first table, and the quality assessment weighs those of
the second.  Nothing in the program ties the tables together, but on a single line every rule of
the first one is covered by a rule of the second: the sinks are more there, the names are more, or
the length is not limited (`covers_of_refines`).

The rule for commands needs an argument of its own, because a rule that commits to the first source
does not refine one with fewer sources.  It commits no later, though, and its source ends no later
if the words that were added are not longer; what lies between stays within the line
(`exists_mem_ends_firstUpTo_words`).
-/
import ThreatScan.Catalog.Code
import ThreatScan.Proofs.Pattern.Occurrence

namespace ThreatScan

/-- On every line where `s` occurs, `s'` occurs. -/
def Signature.Covers (s' s : Signature) : Prop :=
  ∀ line, Text.newline ∉ line → 0 < s.pattern.count line → 0 < s'.pattern.count line

theorem Signature.covers_of_refines {s s' : Signature} (h : s.pattern.Refines s'.pattern) :
    s'.Covers s :=
  fun _ _ hpos => h.count_pos hpos

namespace Shipped

open Pattern

/-! ## 1. Sources -/

section FirstUpTo

variable {c d : Cursor} {n : ℕ}

/-- What `firstUpTo` stops at is an end of its pattern, from a place further on in the line. -/
theorem exists_of_mem_ends_firstUpTo {p : Pattern} (h : d ∈ (firstUpTo p).ends c) :
    ∃ n, c.Spans .inLine n ∧ d ∈ p.ends (c.advance n) := by
  obtain ⟨b, hb, hd⟩ := List.mem_flatMap.mp (List.mem_of_mem_take h)
  obtain ⟨n, -, hspans, rfl⟩ := mem_ends_many.mp hb
  exact ⟨n, hspans, hd⟩

/-- Where the pattern fits at once, `firstUpTo` stops at its preferred end. -/
theorem mem_ends_firstUpTo_of_cons {p : Pattern} {ds : List Cursor} (h : p.ends c = d :: ds) :
    d ∈ (firstUpTo p).ends c := by
  obtain ⟨offset, t⟩ := c
  have hplaces : ∃ later, places .inLine 0 offset t = ⟨offset, t⟩ :: later := by
    cases t <;> simp [places]
  obtain ⟨later, hlater⟩ := hplaces
  show d ∈ ((places .inLine 0 offset t).flatMap p.ends).take 1
  rw [hlater, List.flatMap_cons, h]
  simp

/-- Where the pattern does not fit, `firstUpTo` goes on behind the next code point. -/
theorem ends_firstUpTo_cons {p : Pattern} {offset : ℕ} {x : CodePoint} {t : Text}
    (hx : CharClass.inLine.has x = true) (h : p.ends ⟨offset, x :: t⟩ = []) :
    (firstUpTo p).ends ⟨offset, x :: t⟩ = (firstUpTo p).ends ⟨offset + 1, t⟩ := by
  show ((places .inLine 0 offset (x :: t)).flatMap p.ends).take 1 = _
  simp only [places, hx, if_true, List.singleton_append, List.flatMap_cons, h, List.nil_append]
  rfl

/-- `firstUpTo` stops no later than at any place where its pattern fits, and at its preferred end. -/
theorem exists_mem_ends_firstUpTo {p : Pattern} (hspans : c.Spans .inLine n)
    (hp : p.ends (c.advance n) ≠ []) :
    ∃ m ≤ n, ∃ d, (p.ends (c.advance m)).head? = some d ∧ d ∈ (firstUpTo p).ends c := by
  induction n generalizing c with
  | zero =>
    obtain ⟨d, ds, hends⟩ := List.exists_cons_of_ne_nil hp
    exact ⟨0, le_rfl, d, by rw [hends]; rfl, mem_ends_firstUpTo_of_cons hends⟩
  | succ n ih =>
    obtain ⟨offset, t⟩ := c
    cases hends : p.ends ⟨offset, t⟩ with
    | cons d ds => exact ⟨0, Nat.zero_le _, d, by simp [hends], mem_ends_firstUpTo_of_cons hends⟩
    | nil =>
      cases t with
      | nil => exact absurd (Cursor.spans_nil.mp hspans) (Nat.succ_ne_zero n)
      | cons x t =>
        obtain ⟨hx, hspans⟩ := Cursor.spans_succ.mp hspans
        rw [Cursor.advance_succ] at hp
        obtain ⟨m, hm, d, hd, hfirst⟩ := ih hspans hp
        refine ⟨m + 1, by omega, d, by rwa [Cursor.advance_succ], ?_⟩
        rwa [ends_firstUpTo_cons hx hends]

/-- Looking for more words, none of them longer, `firstUpTo` stops no later. -/
theorem exists_mem_ends_firstUpTo_words {w : Text} {ts : List Text} (hw : w ∈ ts)
    (hlongest : ∀ u ∈ ts, u.length ≤ w.length) (hd : d ∈ (firstUpTo (word w)).ends c) :
    ∃ b ∈ (firstUpTo (words ts)).ends c, ∃ i j, b = c.advance i ∧ d = b.advance j ∧
      j ≤ b.rest.length := by
  obtain ⟨n, hspans, hdw⟩ := exists_of_mem_ends_firstUpTo hd
  have hts : ts ≠ [] := List.ne_nil_of_mem hw
  have hwords : (words ts).ends (c.advance n) ≠ [] :=
    List.ne_nil_of_mem ((mem_ends_words hts).mpr ⟨w, hw, hdw⟩)
  obtain ⟨m, hm, b, hb, hfirst⟩ := exists_mem_ends_firstUpTo hspans hwords
  obtain ⟨u, hu, hbu⟩ := (mem_ends_words hts).mp (List.mem_of_mem_head? hb)
  obtain ⟨hlength, rfl⟩ := eq_advance_of_mem_ends_word hdw
  obtain ⟨-, rfl⟩ := eq_advance_of_mem_ends_word hbu
  have hle := hlongest u hu
  have hn : n ≤ c.rest.length := hspans.1
  rw [Cursor.advance_advance] at hfirst
  refine ⟨_, hfirst, m + u.length, n + w.length - (m + u.length), rfl, ?_, ?_⟩
  · rw [Cursor.advance_advance, Cursor.advance_advance]
    congr 1
    omega
  · simp only [Cursor.advance, List.length_drop] at hlength ⊢
    omega

end FirstUpTo

/-! ## 2. Rules -/

/-- In a line every gap reaches as far as the line does. -/
theorem spans_inLine {c : Cursor} {n : ℕ} (hline : Text.newline ∉ c.rest)
    (hn : n ≤ c.rest.length) : c.Spans .inLine n := by
  refine ⟨hn, ?_⟩
  intro x hx
  have hne : x ≠ Text.newline := by
    rintro rfl
    exact hline (List.mem_of_mem_take hx)
  simpa [CharClass.has, CharClass.inLine, Text.newline] using hne

/-- A gap may as well start earlier in the line. -/
theorem mem_ends_shortGap_of_advance {c d : Cursor} {n : ℕ} (hline : Text.newline ∉ c.rest)
    (hn : n ≤ c.rest.length) (hd : d ∈ shortGap.ends (c.advance n)) : d ∈ shortGap.ends c := by
  obtain ⟨m, -, ⟨hm, -⟩, rfl⟩ := mem_ends_many.mp hd
  simp only [Cursor.advance, List.length_drop] at hm
  exact mem_ends_many.mpr ⟨n + m, Nat.zero_le _, spans_inLine hline (by omega), by simp⟩

theorem refines_flow (sources : List Pattern) {sinks sinks' : List Text} (hne : sinks ≠ [])
    (h : sinks ⊆ sinks') : (flow sources sinks).Refines (flow sources sinks') :=
  refines_sequence_append _ (.cons (.refl shortGap) (.cons (refines_words hne h) .nil))

theorem refines_assignment {names names' : List Text} {p p' : Pattern} (hne : names ≠ [])
    (h : names ⊆ names') (hp : p.Refines p') :
    (sequence (assignsQuoted names ++ [p, one .quote])).Refines
      (sequence (assignsQuoted names' ++ [p', one .quote])) :=
  refines_sequence (.cons (refines_words hne h) (.cons (.refl _) (.cons (.refl _) (.cons (.refl _)
    (.cons (.refl _) (.cons hp (.cons (.refl _) .nil)))))))

/-- A flow from one source starts at the beginning and has three parts. -/
theorem mem_ends_flow {p : Pattern} {sinks : List Text} {c d : Cursor} :
    d ∈ (flow [p] sinks).ends c ↔
      c.offset = 0 ∧
        ∃ b ∈ (firstUpTo p).ends c, ∃ a ∈ shortGap.ends b, d ∈ (words sinks).ends a := by
  have hflow : (flow [p] sinks).ends c =
      (atStart.ends c).flatMap fun c => ((firstUpTo p).ends c).flatMap fun b =>
        (shortGap.ends b).flatMap (words sinks).ends :=
    rfl
  rw [hflow, ends]
  split <;> simp [*]

/-- **A flow from one word is one from several words**, if none of them is longer. -/
theorem mem_ends_flow_words {w : Text} {ts sinks : List Text} (hw : w ∈ ts)
    (hlongest : ∀ u ∈ ts, u.length ≤ w.length) {c d : Cursor} (hline : Text.newline ∉ c.rest)
    (hd : d ∈ (flow [word w] sinks).ends c) : d ∈ (flow [words ts] sinks).ends c := by
  obtain ⟨hstart, b, hb, a, ha, hd⟩ := mem_ends_flow.mp hd
  obtain ⟨b', hb', i, j, rfl, rfl, hj⟩ := exists_mem_ends_firstUpTo_words hw hlongest hb
  have hline' : Text.newline ∉ (c.advance i).rest := fun hmem => hline (List.mem_of_mem_drop hmem)
  exact mem_ends_flow.mpr ⟨hstart, _, hb', a, mem_ends_shortGap_of_advance hline' hj ha, hd⟩

/-! ## 3. Tables -/

/-- The rules for text that a user controls and that ends up as code. -/
def injectionRules : List Text := ["TL-VULN-001", "TL-VULN-002", "TL-VULN-005"]

/-- The rules for secrets in the code. -/
def credentialRules : List Text := ["TL-VULN-003", "TL-VULN-004"]

theorem covers_command : advancedVulnerabilities[2].Covers vulnerabilities[4] := by
  intro line hline hpos
  obtain ⟨n, hn, hends⟩ := count_pos_iff.mp hpos
  obtain ⟨d, hd⟩ := List.exists_mem_of_ne_nil _ hends
  have hrest : Text.newline ∉ ((⟨0, line⟩ : Cursor).advance n).rest :=
    fun hmem => hline (List.mem_of_mem_drop hmem)
  have hword : Text.ofString "system(" ∈ [Text.ofString "system(", "exec("] := by simp
  have hd' := mem_ends_flow_words hword (by decide +kernel) hrest hd
  exact count_pos_iff.mpr ⟨n, hn, List.ne_nil_of_mem hd'⟩

/-- **Every injection rule has a covering one of its own** among the grave ones of the second
table. -/
theorem injections_covered :
    List.Forall₂ (fun s s' => s'.Covers s)
      (vulnerabilities.filter fun s => s.ruleId ∈ injectionRules)
      (advancedVulnerabilities.filter fun s => s.severity = .high) := by
  have hinjections : vulnerabilities.filter (fun s => s.ruleId ∈ injectionRules) =
      [vulnerabilities[0], vulnerabilities[1], vulnerabilities[4]] := rfl
  have hgrave : advancedVulnerabilities.filter (fun s => s.severity = .high) =
      [advancedVulnerabilities[0], advancedVulnerabilities[1], advancedVulnerabilities[2]] := rfl
  have hsinks : (["input", "request", "params"] : List Text) ⊆
      ["input", "request", "params", "$_GET", "$_POST"] := by simp
  have hquery : advancedVulnerabilities[0].Covers vulnerabilities[0] :=
    Signature.covers_of_refines (refines_flow _ (by simp) hsinks)
  have hmarkup : advancedVulnerabilities[1].Covers vulnerabilities[1] :=
    Signature.covers_of_refines (refines_flow _ (by simp) hsinks)
  rw [hinjections, hgrave]
  exact .cons hquery (.cons hmarkup (.cons covers_command .nil))

/-- **One rule of the second table covers both rules for secrets.** -/
theorem credentials_covered :
    ∃ s' ∈ advancedVulnerabilities, s'.severity = .medium ∧
      ∀ s ∈ vulnerabilities, s.ruleId ∈ credentialRules → s'.Covers s := by
  have hcredentials : vulnerabilities.filter (fun s => s.ruleId ∈ credentialRules) =
      [vulnerabilities[2], vulnerabilities[3]] := rfl
  have hpassword : advancedVulnerabilities[3].Covers vulnerabilities[2] :=
    Signature.covers_of_refines
      (refines_assignment (by simp) (by simp) upTo_refines_someOf)
  have hkeys : advancedVulnerabilities[3].Covers vulnerabilities[3] :=
    Signature.covers_of_refines (refines_assignment (by simp) (by simp) (.refl _))
  refine ⟨advancedVulnerabilities[3], by simp, rfl, ?_⟩
  intro s hs hrule
  have hmem : s ∈ [vulnerabilities[2], vulnerabilities[3]] := by
    rw [← hcredentials]
    exact List.mem_filter.mpr ⟨hs, by simpa using hrule⟩
  rcases List.mem_pair.mp hmem with rfl | rfl
  · exact hpassword
  · exact hkeys

end Shipped
end ThreatScan
