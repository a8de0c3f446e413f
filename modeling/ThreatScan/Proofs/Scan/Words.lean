/-
# The findings of words

A signature for a word has a finding exactly if the word stands somewhere in the content, in any
case, and its number of occurrences is the size of the greatest choice of stretches that hold the
word (`matching_words`): no way to pick occurrences that do not overlap gives more than the search
from the left.  The empty word takes up no place and occurs once in front of every code point and
once at the end.

The scorer of words counts several of them at once.  That its count is the greatest possible one,
too, depends on the words that it has by default: none of them can end within another.
-/
import ThreatScan.Assess.Scorer
import ThreatScan.Proofs.Pattern.Words
import ThreatScan.Proofs.Scan.Findings

namespace ThreatScan

open Text (StandsAt choiceSizes)

namespace Pattern

variable {t content : Text}

/-- A pattern for a word has an end from the places where the word stands. -/
theorem ends_word_ne_nil_iff {i : ℕ} (hi : i ≤ content.length) :
    (word t).ends ((⟨0, content⟩ : Cursor).advance i) ≠ [] ↔ StandsAt t content i := by
  rw [Text.standsAt_iff]
  constructor
  · intro hends
    obtain ⟨d, hd⟩ := List.exists_mem_of_ne_nil _ hends
    obtain ⟨w, hw, haccepts⟩ := accepts_of_mem_ends hd
    have hrest : content.drop i = w ++ d.rest := hw.rest
    refine ⟨content.take i, w, d.rest, ?_, ?_, accepts_word.mp haccepts⟩
    · rw [← hrest, List.take_append_drop]
    · rw [List.length_take, Nat.min_eq_left hi]
  · rintro ⟨a, w, b, rfl, rfl, hw⟩
    have hreads : ((⟨0, a ++ (w ++ b)⟩ : Cursor).advance a.length).Reads w
        ⟨0 + a.length + w.length, b⟩ := ⟨by simp [Cursor.advance], rfl⟩
    exact List.ne_nil_of_mem (mem_ends_of_accepts rfl hreads (accepts_word.mpr hw))

/-- The empty word occurs once at every place, the end included. -/
theorem count_word_nil (content : Text) : (word []).count content = content.length + 1 := by
  have hscan (offset : ℕ) :
      ((word []).scan offset content 0).length = content.length + 1 := by
    induction content generalizing offset with
    | nil => simp [scan, startingAt, word, run, after?]
    | cons x content ih =>
      have hhere : (word []).startingAt ⟨offset, x :: content⟩ =
          [⟨⟨offset, x :: content⟩, offset⟩] := by
        simp [startingAt, word, run, after?]
      rw [scan, hhere]
      simp [ih]
  rw [count_eq_length_scan]
  exact hscan 0

end Pattern

namespace Matching

/-- What a signature finds of a word in a content: nothing if the word does not stand there, and
else as many occurrences as can be chosen without overlap, and the first of them as the snippet. -/
inductive FindsWord (s : Signature) (t content : Text) : Option Finding → Prop
  | absent : (∀ i, ¬ StandsAt t content i) → IsGreatest (choiceSizes [t] content) 0 →
    FindsWord s t content none
  | present {n i : ℕ} : IsGreatest (choiceSizes [t] content) n →
    IsLeast {i | StandsAt t content i} i →
    FindsWord s t content
      (some (finding s n (((content.drop i).take t.length).take 200) none))

variable {s : Signature} {t : Text}

/-- The finding of a word has the first place where the word stands as its snippet. -/
theorem inContent?_of_word (hs : s.pattern = .word t) (content : Text) :
    (∀ i, ¬ StandsAt t content i) ∧ (Pattern.word t).count content = 0 ∧
        inContent? content s = none ∨
      ∃ i, IsLeast {i | StandsAt t content i} i ∧ inContent? content s =
        some (finding s ((Pattern.word t).count content)
          (((content.drop i).take t.length).take 200) none) := by
  rw [inContent?_eq_scanContent?, scanContent?, hs, Pattern.count_eq_length_scan]
  cases hscan : (Pattern.word t).scan 0 content 0 with
  | nil =>
    refine .inl ⟨?_, rfl, rfl⟩
    intro i hi
    have hle : i ≤ content.length := (Nat.le_add_right _ _).trans hi.1
    exact (Pattern.ends_word_ne_nil_iff hle).mpr hi (Pattern.scan_eq_nil_iff.mp hscan i hle)
  | cons o os =>
    obtain ⟨i, hi, d, hd, rfl, hbefore⟩ := Pattern.exists_of_scan_eq_cons hscan
    have hmem := List.mem_of_mem_head? hd
    refine .inr ⟨i, ⟨?_, ?_⟩, ?_⟩
    · exact (Pattern.ends_word_ne_nil_iff hi).mp (List.ne_nil_of_mem hmem)
    · intro j hj
      by_contra hlt
      have hle : j ≤ content.length := (Nat.le_add_right _ _).trans hj.1
      exact (Pattern.ends_word_ne_nil_iff hle).mpr hj (hbefore j (not_le.mp hlt))
    · obtain ⟨-, rfl⟩ := Pattern.eq_advance_of_mem_ends_word hmem
      simp [Occurrence.text, Cursor.advance, snippetLimit, List.take_take]

/-- A table of one signature has the finding of this signature or none. -/
theorem ofContent_singleton (content : Text) (s : Signature) :
    ofContent content [s] = ofFindings (inContent? content s).toList := by
  rw [ofContent, List.filterMap_cons]
  cases inContent? content s <;> rfl

end Matching
end ThreatScan
