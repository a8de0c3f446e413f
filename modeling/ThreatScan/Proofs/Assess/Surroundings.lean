/-
# Evidence with other text around it

The pattern score of a content adds up the occurrences of evidence, and evidence with a gap takes as
much of a line as it can.  So text in front of a content, or behind it, can lower the score: the gap
of an occurrence that begins in front may cover all that was counted (`score_surrounded_less`).

Nothing else can.  A pattern of evidence that occurs in a content occurs in every text around it, so
no threat is lost; and as long as only words reach over the borders of the content, all counts are
no lower, and neither are the score and the confidence (`patterns_surrounded`).  This is so for
whole lines around a content, which nothing reaches over, and in general for sturdy patterns, as the
eight ones are.  Ransomware is the one of which a gap can begin within a word, as
`encrypt` does in `.encrypted`.
-/
import ThreatScan.Engine.Setup
import ThreatScan.Proofs.Assess.Evidence
import ThreatScan.Proofs.Pattern.Sturdy

namespace ThreatScan

open Binary64

namespace Shipped

open Pattern

/-! ## 1. The patterns of evidence -/

/-- All that is looked up in the table, at one go.  The gap of the ransomware is the only one that
can begin within a word. -/
theorem checks_advancedMalware : ∀ s ∈ advancedMalware,
    s.pattern.isPlain = true ∧ 0 < s.pattern.leastLength ∧ s.pattern.wordsHoldNothing = true ∧
      s.pattern.excludes Text.newline = true ∧
      (s.pattern.gapsBeginOutside = false →
        (∀ q ∈ s.pattern.alternatives, q.word? = none → q = stretch
          (("encrypt" : Text).map .letter) (("files" : Text).map .letter)) ∧
        s.pattern.wordsBeginOutside = true ∧
        ∀ ks ∈ s.pattern.wordsOf, canBeginWithin (("files" : Text).map .letter) ks = false) := by
  decide +kernel

/-- **The patterns of evidence are sturdy.** -/
theorem isSturdy_advancedMalware : ∀ s ∈ advancedMalware, s.pattern.IsSturdy := by
  intro s hs
  obtain ⟨hplain, hlength, hholds, -, hgap⟩ := checks_advancedMalware s hs
  cases hgaps : s.pattern.gapsBeginOutside with
  | true => exact isSturdy_of_words hplain hlength hholds hgaps
  | false =>
    obtain ⟨hone, hwords, hwordsLast⟩ := hgap hgaps
    have honeGap : s.pattern.HasOneGap (("encrypt" : Text).map .letter)
        (("files" : Text).map .letter) :=
      ⟨hone, hwords, by decide, by decide, by decide, hwordsLast⟩
    exact honeGap.isSturdy_of_gap hplain hlength hholds

/-- Evidence stands in one line. -/
theorem excludes_newline : ∀ s ∈ advancedMalware, s.pattern.excludes Text.newline = true := by
  intro s hs
  obtain ⟨-, -, -, hnewline, -⟩ := checks_advancedMalware s hs
  exact hnewline

end Shipped

namespace MalwareAnalyzer

open Shipped

variable {m : MalwareAnalyzer} {content content' name : Text}

/-! ## 2. The pattern score -/

/-- No threat of a part of a content is lost. -/
theorem threats_subset_of_part (hcatalog : m.catalog = Catalog.default)
    (h : content <:+: content') :
    (m.patterns content name).threats ⊆ (m.patterns content' name).threats := by
  have hweight := Catalog.noNegativeWeight_default .advancedMalware
  intro threat hthreat
  simp only [patterns, patternScore, hcatalog, List.mem_append] at hthreat ⊢
  refine hthreat.imp_left ?_
  intro hlabel
  obtain ⟨s, hs, hpos, hlabel⟩ := (Matching.mem_labels_ofContent hweight).mp hlabel
  have hplain := (isSturdy_advancedMalware s hs).plain
  obtain ⟨w, hw, hpart⟩ := (Pattern.count_pos_iff_of_isPlain hplain).mp hpos
  have hpos' := (Pattern.count_pos_iff_of_isPlain hplain).mpr ⟨w, hw, hpart.trans h⟩
  exact (Matching.mem_labels_ofContent hweight).mpr ⟨s, hs, hpos', hlabel⟩

/-- **Text around a content takes no threat away**, and lowers neither the pattern score nor the
confidence if it is whole lines, or if only words reach over the borders. -/
theorem patterns_surrounded (hcatalog : m.catalog = Catalog.default) (before after : Text) :
    (m.patterns content name).threats ⊆
        (m.patterns (before ++ (content ++ after)) name).threats ∧
      (Pattern.OnlyLines before after ∨
          (∀ s ∈ advancedMalware, s.pattern.CutsOnlyWords before content after) →
        (m.patterns content name).score.atMost
            (m.patterns (before ++ (content ++ after)) name).score = true ∧
          (m.patterns content name).confidence.atMost
            (m.patterns (before ++ (content ++ after)) name).confidence = true) := by
  have hpart : content <:+: before ++ (content ++ after) := ⟨before, after, List.append_assoc ..⟩
  refine ⟨threats_subset_of_part hcatalog hpart, ?_⟩
  intro haround
  have hpositive : PositiveWeights m.catalog.advancedMalware :=
    hcatalog ▸ Catalog.positiveWeights_default .advancedMalware
  refine patterns_atMost hpositive ?_ name
  intro s hs
  rw [hcatalog] at hs
  have hsturdy := isSturdy_advancedMalware s hs
  rcases haround with hlines | hwords
  · exact Pattern.count_le_of_onlyLines hsturdy.plain hsturdy.length (excludes_newline s hs) hlines
  · exact hsturdy.count_le_surrounded (hwords s hs)

/-- A word that is cut in two by the beginning of a content. -/
theorem patterns_surrounded_of_word :
    let m := ({} : Settings).malwareAnalyzer Catalog.default fun _ => .late
    m.catalog = Catalog.default ∧
      (∀ s ∈ advancedMalware,
        s.pattern.CutsOnlyWords "ransomwar" "e, encrypt all files" " of botnets") ∧
      (m.patterns "e, encrypt all files" "a.txt").score.atMost
        (m.patterns "ransomware, encrypt all files of botnets" "a.txt").score = true := by
  intro m
  have hwords : ∀ s ∈ advancedMalware,
      s.pattern.CutsOnlyWords "ransomwar" "e, encrypt all files" " of botnets" := by
    simp only [Pattern.CutsOnlyWords, Pattern.occurrences_eq_scan]
    decide
  exact ⟨rfl, hwords, ((patterns_surrounded rfl "ransomwar" " of botnets").2 (.inr hwords)).1⟩

/-- A gap that begins in front of a content covers two occurrences in there. -/
theorem score_surrounded_less :
    let m := ({} : Settings).malwareAnalyzer Catalog.default fun _ => .late
    let before : Text := "encrypt "
    let content : Text := "ransomware, ransomware files"
    less (m.patterns (before ++ (content ++ [])) "a.txt").score
        (m.patterns content "a.txt").score = true ∧
      less (m.patterns (before ++ (content ++ [])) "a.txt").confidence
        (m.patterns content "a.txt").confidence = true := by
  simp only [patterns, Matching.ofContent, Matching.inContent?_eq_scanContent?]
  decide +kernel

end MalwareAnalyzer
end ThreatScan
