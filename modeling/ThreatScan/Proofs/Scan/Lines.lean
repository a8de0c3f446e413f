/-
# Matching line by line

The findings in a text are those in front of a line feed and those behind it, signature by
signature, the ones behind with higher line numbers; and a word without a line feed occurs in the
lines of a text as often as in the text, the empty word included (`ofLines_newline`).

A finding with a negative weight ends a matching, so both halves are said of complete matchings;
the one of a text is complete exactly if those of the texts on both sides of a line feed are.
-/
import ThreatScan.Proofs.Pattern.Margin
import ThreatScan.Proofs.Scan.Words

namespace ThreatScan

open Text (newline)

/-- The finding when `n` more lines are in front of its own. -/
def Finding.linesDown (n : ℕ) (f : Finding) : Finding :=
  { f with lineNumber := f.lineNumber.map (· + (n : ℤ)) }

namespace Pattern

/-- A word without a line feed occurs in a text as often as in its lines. -/
theorem count_word_eq_sum_lines {t : Text} (ht : newline ∉ t) (content : Text) :
    (word t).count content = ((Text.lines content).map (word t).count).sum := by
  by_cases hnil : t = []
  · -- The empty word stands at the end of every line, where the text has a line feed or ends.
    subst hnil
    induction content using Text.lines_induction with
    | hline l hl => rw [Text.lines_of_notMem hl, List.map_singleton, List.sum_singleton]
    | hcons l content hl ih =>
      rw [count_word_nil] at ih
      rw [Text.lines_append, Text.lines_of_notMem hl, List.singleton_append, List.map_cons,
        List.sum_cons, ← ih, count_word_nil, count_word_nil, List.length_append, List.length_cons]
      omega
  · have hlength : 0 < (words [t]).leastLength :=
      leastLength_words (by simp) (by simpa using Ne.symm hnil)
    exact count_eq_sum_lines hlength rfl (excludes_word (by decide) ht) content

end Pattern

namespace Matching

variable {fs gs : List Finding} {s : Signature} {table : List Signature} {t a b content : Text}

/-! ## 1. Complete matchings -/

theorem refused_ofFindings : (ofFindings fs).refused = none ↔ ∀ f ∈ fs, isRefused f = false := by
  simp [ofFindings]

theorem findings_of_refused (h : (ofFindings fs).refused = none) : (ofFindings fs).findings = fs :=
  List.takeWhile_eq_self_iff.mpr fun f hf => by simp [refused_ofFindings.mp h f hf]

/-- A signature of a table keeps its findings if the table does. -/
theorem findings_ofLines_singleton (h : (ofLines content table).refused = none) (hs : s ∈ table) :
    (ofLines content [s]).findings = inLines (numberedLines content) s := by
  have hone : (ofLines content [s]).refused = none := by
    refine refused_ofFindings.mpr ?_
    intro f hf
    rw [List.flatMap_singleton] at hf
    exact refused_ofFindings.mp h f (List.mem_flatMap.mpr ⟨s, hs, hf⟩)
  rw [ofLines, findings_of_refused hone, List.flatMap_singleton]

/-! ## 2. Two texts -/

theorem inLines_append (lines lines' : List (Text × ℕ)) (s : Signature) :
    inLines (lines ++ lines') s = inLines lines s ++ inLines lines' s :=
  List.filterMap_append

/-- Higher numbers of the lines are higher numbers of the findings. -/
theorem inLines_linesDown (lines : List (Text × ℕ)) (n : ℕ) (s : Signature) :
    inLines (lines.map (Prod.map id (· + n))) s = (inLines lines s).map (Finding.linesDown n) := by
  rw [inLines, inLines, List.filterMap_map, List.map_filterMap]
  refine List.filterMap_congr ?_
  intro line _
  simp only [Function.comp_apply, Prod.map, id_eq, inLine?]
  split
  · rfl
  · simp [Finding.linesDown, finding]

theorem inLines_newline (a b : Text) (s : Signature) :
    inLines (numberedLines (a ++ newline :: b)) s = inLines (numberedLines a) s ++
      (inLines (numberedLines b) s).map (Finding.linesDown (Text.lines a).length) := by
  rw [numberedLines_append, inLines_append, inLines_linesDown]

/-- A finding is refused whatever its line. -/
theorem refused_ofLines_newline :
    (ofLines (a ++ newline :: b) table).refused = none ↔
      (ofLines a table).refused = none ∧ (ofLines b table).refused = none := by
  simp only [ofLines, refused_ofFindings, List.mem_flatMap, inLines_newline, List.mem_append,
    List.mem_map]
  constructor
  · intro h
    constructor
    · rintro f ⟨s, hs, hf⟩
      exact h f ⟨s, hs, .inl hf⟩
    · rintro f ⟨s, hs, hf⟩
      exact h (f.linesDown _) ⟨s, hs, .inr ⟨f, hf, rfl⟩⟩
  · rintro ⟨ha, hb⟩ f ⟨s, hs, hf | ⟨g, hg, rfl⟩⟩
    · exact ha f ⟨s, hs, hf⟩
    · exact hb g ⟨s, hs, hg⟩

/-! ## 3. One word -/

theorem matchCount_eq_sum (m : Matching) : m.matchCount = (m.findings.map (·.matchCount)).sum := by
  rw [List.sum_eq_foldl, List.foldl_map]
  rfl

/-- The findings in lines stand for all occurrences there. -/
theorem sum_matchCount_inLines (lines : List (Text × ℕ)) (s : Signature) :
    ((inLines lines s).map (·.matchCount)).sum =
      ((lines.map fun line => s.pattern.count line.1).sum : ℕ) := by
  induction lines with
  | nil => rfl
  | cons line lines ih =>
    rw [List.map_cons, List.sum_cons, Nat.cast_add, ← ih]
    by_cases hcount : s.pattern.count line.1 = 0
    · have hnone : inLine? s s.pattern.search line = none := if_pos hcount
      rw [inLines, List.filterMap_cons_none hnone, hcount, Nat.cast_zero, zero_add]
      rfl
    · have hsome : inLine? s s.pattern.search line = some (finding s (s.pattern.count line.1)
          ((Text.trim line.1).take snippetLimit) (some line.2)) := if_neg hcount
      rw [inLines, List.filterMap_cons_some hsome, List.map_cons, List.sum_cons]
      rfl

theorem matchCount_ofLines (h : (ofLines content [s]).refused = none) :
    (ofLines content [s]).matchCount =
      (((Text.lines content).map s.pattern.count).sum : ℕ) := by
  have hlines : (numberedLines content).map (fun line => s.pattern.count line.1) =
      (Text.lines content).map s.pattern.count := by
    conv_rhs => rw [← List.zipIdx_map_fst 1 (Text.lines content), List.map_map]
    rfl
  rw [matchCount_eq_sum, ofLines, findings_of_refused h, List.flatMap_singleton,
    sum_matchCount_inLines, hlines]

theorem matchCount_ofContent (h : (ofContent content [s]).refused = none) :
    (ofContent content [s]).matchCount = (s.pattern.count content : ℕ) := by
  rw [ofContent_singleton] at h ⊢
  rw [matchCount_eq_sum, findings_of_refused h]
  obtain ⟨snippet, hfound⟩ := inContent?_eq content s
  rw [hfound]
  split
  case isTrue hcount =>
    rw [hcount]
    rfl
  case isFalse =>
    rw [Option.toList_some, List.map_singleton, List.sum_singleton]
    rfl

/-- **Matching line by line goes on at a line feed and agrees with matching as a whole.** -/
theorem ofLines_newline :
    (∀ (table : List Signature) (a b : Text),
        ((ofLines (a ++ newline :: b) table).refused = none ↔
            (ofLines a table).refused = none ∧ (ofLines b table).refused = none) ∧
          ((ofLines (a ++ newline :: b) table).refused = none →
            (ofLines (a ++ newline :: b) table).findings = table.flatMap fun s =>
              (ofLines a [s]).findings ++
                (ofLines b [s]).findings.map (Finding.linesDown (Text.lines a).length))) ∧
      ∀ (s : Signature) (t content : Text), s.pattern = .word t → newline ∉ t →
        (ofLines content [s]).refused = none → (ofContent content [s]).refused = none →
          (ofLines content [s]).matchCount = (ofContent content [s]).matchCount := by
  constructor
  · intro table a b
    refine ⟨refused_ofLines_newline, ?_⟩
    intro h
    obtain ⟨ha, hb⟩ := refused_ofLines_newline.mp h
    rw [ofLines, findings_of_refused h]
    refine List.flatMap_congr ?_
    intro s hs
    rw [inLines_newline, findings_ofLines_singleton ha hs, findings_ofLines_singleton hb hs]
  · intro s t content hs ht hlines hcontent
    rw [matchCount_ofLines hlines, matchCount_ofContent hcontent, hs,
      ← Pattern.count_word_eq_sum_lines ht]

/-- The second line of a text keeps its number; the empty word is found on both, empty or not. -/
theorem ofLines_newline_of_loop :
    let table := [Signature.ofWord "T-1" "for" .low .suspicious,
      Signature.ofWord "T-2" "x" .low .suspicious]
    let content : Text := "for x" ++ newline :: "For"
    let nowhere := Signature.ofWord "T-3" [] .low .suspicious
    ((ofLines content table).refused = none ∧
        (ofLines content table).findings = table.flatMap fun s =>
          (ofLines "for x" [s]).findings ++ (ofLines "For" [s]).findings.map (Finding.linesDown 1)) ∧
      ((ofLines content table).findings.map fun f => (f.label, f.lineNumber)) =
        [(("for" : Text), some 1), ("for", some 2), ("x", some 1)] ∧
      newline ∉ ([] : Text) ∧
      (ofLines [newline] [nowhere]).matchCount = (ofContent [newline] [nowhere]).matchCount := by
  intro table content nowhere
  have htable : NoNegativeWeight table := by
    unfold NoNegativeWeight
    decide +kernel
  have hnowhere : NoNegativeWeight [nowhere] := by
    unfold NoNegativeWeight
    decide +kernel
  refine ⟨⟨refused_ofLines htable, (ofLines_newline.1 table "for x" "For").2
    (refused_ofLines htable)⟩, ?_, List.not_mem_nil, ?_⟩
  · rw [ofLines_eq htable, inLines_eq_scanLines]
    decide +kernel
  · exact ofLines_newline.2 nowhere [] [newline] rfl List.not_mem_nil (refused_ofLines hnowhere)
      (refused_ofContent hnowhere)

end Matching
end ThreatScan
