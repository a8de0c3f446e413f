/-
# What the rules that commit themselves accept

A rule from a source to a sink commits itself to the first source that it finds, and then to the
first operator, and never looks for another one.  It loses nothing by that, since the piece that it
commits itself to is one that ends first: whatever stands behind another one stands behind this one,
too (`exists_of_split`).  So a line has the pieces of the rule in turn exactly if the rule occurs in
it, and then it occurs once (`plainForms_exact`).

That the first piece ends first is not true of all words.  A rule whose sources may end within one
another could miss a sink between the ends, so the words of the tables have to be looked at.
-/
import ThreatScan.Proofs.Catalog.Layout
import ThreatScan.Proofs.Pattern.Words
import ThreatScan.Scan.Indication

namespace ThreatScan

open Text (InTurn IsBlank IsOneOf Spells newline)

namespace Shipped

open Pattern

variable {p q : Pattern} {sources : List Pattern} {c d : Cursor} {a w s line : Text}

/-! ## 1. Pieces of a line -/

/-- An end further on splits the text: what is in front, what the pattern takes, and the rest. -/
theorem split_of_mem_ends {n : ℕ} (h : d ∈ p.ends (c.advance n)) :
    ∃ a w, c.rest = a ++ (w ++ d.rest) ∧ p.Accepts w := by
  obtain ⟨w, hw, haccepts⟩ := accepts_of_mem_ends h
  have hrest : c.rest.drop n = w ++ d.rest := hw.rest
  exact ⟨c.rest.take n, w, by rw [← hrest, List.take_append_drop], haccepts⟩

/-- A plain pattern has an end behind every text that it accepts. -/
theorem mem_ends_of_split (hp : p.isPlain = true) (hrest : c.rest = a ++ (w ++ s))
    (hw : p.Accepts w) :
    (⟨c.offset + a.length + w.length, s⟩ : Cursor) ∈ p.ends (c.advance a.length) := by
  refine mem_ends_of_accepts hp ⟨?_, rfl⟩ hw
  show c.rest.drop a.length = w ++ s
  rw [hrest, List.drop_left]

/-- What follows an end lies in the same line. -/
theorem newline_notMem_of_mem_ends (hline : newline ∉ c.rest) (hd : d ∈ p.ends c) :
    newline ∉ d.rest := by
  obtain ⟨w, hw, -⟩ := accepts_of_mem_ends hd
  rw [hw.rest] at hline
  exact fun hmem => hline (List.mem_append_right w hmem)

/-- A sequence fits if its first part has an end where the others fit. -/
theorem ends_sequence_ne_nil_iff {ps : List Pattern} :
    (sequence (p :: ps)).ends c ≠ [] ↔ ∃ d ∈ p.ends c, (sequence ps).ends d ≠ [] := by
  rw [ends_sequence_cons, ne_eq, List.flatMap_eq_nil_iff]
  simp

/-- **What `firstUpTo` stops at ends first**: behind it there is all that is behind any other text
that the pattern accepts. -/
theorem exists_of_split (hp : p.IsPrompt) (hline : newline ∉ c.rest)
    (hrest : c.rest = a ++ (w ++ s)) (hw : p.Accepts w) :
    ∃ d ∈ (firstUpTo p).ends c, ∃ b, d.rest = b ++ s := by
  have hlength : a.length ≤ c.rest.length := by simp [hrest]
  have hfits := List.ne_nil_of_mem (mem_ends_of_split hp.plain hrest hw)
  obtain ⟨m, hm, d, hd, hfirst⟩ := exists_mem_ends_firstUpTo (spans_inLine hline hlength) hfits
  refine ⟨d, hfirst, ?_⟩
  -- The same end in the text from the place on where the first piece starts.
  have hdrop : c.rest.drop m = a.drop m ++ (w ++ s) := by
    rw [hrest, List.drop_append_of_le_length hm]
  have hends : p.ends (c.advance m) =
      (p.ends ⟨0, a.drop m ++ (w ++ s)⟩).map (Cursor.shift (c.offset + m)) := by
    rw [← ends_shift (isFloating_of_isPlain hp.plain), ← hdrop]
    rfl
  rw [hends, List.head?_map, Option.map_eq_some_iff] at hd
  obtain ⟨e, he, rfl⟩ := hd
  obtain ⟨u, hu, -⟩ := accepts_of_mem_ends (List.mem_of_mem_head? he)
  have hreach : p.reach? (a.drop m ++ (w ++ s)) = some e.offset := by
    rw [reach?, he]
    rfl
  have hle := hp.first _ w s _ hreach hw
  rw [hu.offset] at hle
  have hsplit : a.drop m ++ w ++ s = u ++ e.rest := by
    rw [List.append_assoc]
    exact hu.rest
  refine ⟨(a.drop m ++ w).drop u.length, ?_⟩
  show e.rest = _
  rw [← List.drop_append_of_le_length (by rw [List.length_append]; omega), hsplit, List.drop_left]

/-! ## 2. Rules -/

/-- **A rule that commits itself fits wherever its pieces stand in turn.** -/
theorem ends_ne_nil_iff (hsources : ∀ p ∈ sources, p.IsPrompt) (hq : q.isPlain = true)
    (hline : newline ∉ c.rest) :
    (sequence (sources.map firstUpTo ++ [shortGap, q])).ends c ≠ [] ↔
      InTurn (sources.map Accepts ++ [q.Accepts]) c.rest := by
  induction sources generalizing c with
  | nil =>
    show (sequence [shortGap, q]).ends c ≠ [] ↔ InTurn [q.Accepts] c.rest
    rw [ends_sequence_ne_nil_iff, InTurn.cons_iff]
    constructor
    · rintro ⟨b, hb, hends⟩
      obtain ⟨n, -, -, rfl⟩ := mem_ends_many.mp hb
      obtain ⟨d, hd⟩ := List.exists_mem_of_ne_nil _ hends
      obtain ⟨a, w, hrest, hw⟩ := split_of_mem_ends hd
      exact ⟨a, w, d.rest, hrest, hw, .nil _⟩
    · rintro ⟨a, w, s, hrest, hw, -⟩
      have hgap : c.advance a.length ∈ shortGap.ends c :=
        mem_ends_many.mpr ⟨_, Nat.zero_le _, spans_inLine hline (by simp [hrest]), rfl⟩
      exact ⟨_, hgap, List.ne_nil_of_mem (mem_ends_of_split hq hrest hw)⟩
  | cons p sources ih =>
    obtain ⟨hp, hsources⟩ := List.forall_mem_cons.mp hsources
    rw [List.map_cons, List.cons_append, ends_sequence_ne_nil_iff, List.map_cons, List.cons_append,
      InTurn.cons_iff]
    constructor
    · rintro ⟨d, hd, hends⟩
      have hline' := newline_notMem_of_mem_ends hline hd
      obtain ⟨n, -, hd⟩ := exists_of_mem_ends_firstUpTo hd
      obtain ⟨a, w, hrest, hw⟩ := split_of_mem_ends hd
      exact ⟨a, w, d.rest, hrest, hw, (ih hsources hline').mp hends⟩
    · rintro ⟨a, w, s, hrest, hw, hs⟩
      obtain ⟨d, hd, b, hb⟩ := exists_of_split hp hline hrest hw
      have hline' := newline_notMem_of_mem_ends hline hd
      exact ⟨d, hd, (ih hsources hline').mpr (hb ▸ hs.prepend b)⟩

/-- **A rule from a source to a sink occurs once** in a line that has its pieces in turn, and in no
other line. -/
theorem count_flow {sinks : List Text} (hsources : ∀ p ∈ sources, p.IsPrompt)
    (hsinks : sinks ≠ []) (hlength : 0 < (flowParts sources sinks).leastLength)
    (hline : newline ∉ line) :
    (InTurn (sources.map Accepts ++ [IsOneOf sinks]) line → (flow sources sinks).count line = 1) ∧
      (¬ InTurn (sources.map Accepts ++ [IsOneOf sinks]) line →
        (flow sources sinks).count line = 0) := by
  have hcount : (flow sources sinks).count line =
      if (flowParts sources sinks).ends ⟨0, line⟩ = [] then 0 else 1 := by
    rw [← count_atStart hlength]
    cases sources <;> rfl
  have hfits : (flowParts sources sinks).ends ⟨0, line⟩ ≠ [] ↔
      InTurn (sources.map Accepts ++ [IsOneOf sinks]) line := by
    rw [← accepts_words_eq hsinks]
    exact ends_ne_nil_iff (c := ⟨0, line⟩) hsources (isPlain_words sinks) hline
  rw [hcount, ← hfits]
  exact ⟨fun h => if_neg h, fun h => if_pos (not_not.mp h)⟩

/-- A rule that starts anywhere and commits itself later occurs where its pieces stand in turn. -/
theorem count_pos_iff_inTurn (hp : p.isPlain = true) (hsources : ∀ p ∈ sources, p.IsPrompt)
    (hq : q.isPlain = true) (hline : newline ∉ line) :
    0 < (sequence (p :: (sources.map firstUpTo ++ [shortGap, q]))).count line ↔
      InTurn (p.Accepts :: (sources.map Accepts ++ [q.Accepts])) line := by
  rw [count_pos_iff, InTurn.cons_iff]
  constructor
  · rintro ⟨n, -, hends⟩
    obtain ⟨d, hd, hends⟩ := ends_sequence_ne_nil_iff.mp hends
    have hpart : newline ∉ line.drop n := fun hmem => hline (List.mem_of_mem_drop hmem)
    have hline' := newline_notMem_of_mem_ends hpart hd
    obtain ⟨a, w, hrest, hw⟩ := split_of_mem_ends hd
    exact ⟨a, w, d.rest, hrest, hw, (ends_ne_nil_iff hsources hq hline').mp hends⟩
  · rintro ⟨a, w, s, rfl, hw, hs⟩
    have hd := mem_ends_of_split (c := ⟨0, a ++ (w ++ s)⟩) hp rfl hw
    have hline' : newline ∉ s := fun hmem => hline (by simp [hmem])
    have hends := (ends_ne_nil_iff (c := ⟨0 + a.length + w.length, s⟩) hsources hq hline').mpr hs
    exact ⟨a.length, by simp, ends_sequence_ne_nil_iff.mpr ⟨_, hd, hends⟩⟩

/-! ## 3. Tables -/

/-- An assignment to the markup of a page, with blanks in front of the equals sign or without. -/
def IsMarkupAssignment (w : Text) : Prop :=
  ∃ u b, w = u ++ (b ++ Text.ofString "=") ∧ Spells "innerHTML" u ∧ IsBlank b

theorem accepts_markupAssignment : markupAssignment.Accepts w ↔ IsMarkupAssignment w := by
  have hsign (x : CodePoint) : Text.sameLetter 61 x = true ↔ x = 61 := by
    have hforms : Text.letterForms (Text.lowerOne 61) = [61] := by decide +kernel
    rw [Text.sameLetter, hforms, List.contains_iff_mem, List.mem_singleton]
    exact ⟨Text.eq_of_lowerOne (by decide), by rintro rfl; rfl⟩
  have hequals {e : Text} : (word "=").Accepts e ↔ e = Text.ofString "=" := by
    rw [accepts_word]
    constructor
    · intro h
      obtain ⟨x, v, hx, hv, rfl⟩ := List.forall₂_cons_left_iff.mp h
      rw [(hsign x).mp hx, List.forall₂_nil_left_iff.mp hv]
      rfl
    · rintro rfl
      exact .cons ((hsign 61).mpr rfl) .nil
  constructor
  · rintro ⟨u, v, rfl, hu, b, e, rfl, ⟨-, hb⟩, he⟩
    rw [hequals.mp he]
    exact ⟨u, b, rfl, accepts_word.mp hu, hb⟩
  · rintro ⟨u, b, rfl, hu, hb⟩
    exact ⟨u, _, rfl, accepts_word.mpr hu, b, _, rfl, ⟨Nat.zero_le _, hb⟩, hequals.mpr rfl⟩

/-- The equals sign ends the assignment. -/
theorem isPrompt_markupAssignment : markupAssignment.IsPrompt := by
  refine isPrompt_of_mark rfl (by decide +kernel) 61 ?_
  intro w hw
  obtain ⟨u, b, rfl, hu, hb⟩ := accepts_markupAssignment.mp hw
  refine ⟨u ++ b, (List.append_assoc ..).symm, ?_⟩
  rw [List.mem_append]
  rintro (hmem | hmem)
  · have hword := hu.mem_of_lt (d := 61) (by decide) hmem
    revert hword
    decide +kernel
  · exact absurd (hb 61 hmem) (by decide)

/-- The pieces that the rules from a source to a sink ask of a line. -/
def plainForms : List (Text × List (Text → Prop)) :=
  let verb := IsOneOf ["SELECT", "INSERT", "UPDATE", "DELETE"]
  let operator := IsOneOf ["+", "||"]
  [("TL-VULN-001", [verb, operator, IsOneOf ["input", "request", "params"]]),
    ("TL-VULN-002", [IsMarkupAssignment, IsOneOf ["input", "request", "params"]]),
    ("TL-VULN-005", [IsOneOf ["system("], IsOneOf ["$_GET", "$_POST", "$_REQUEST"]]),
    ("TL-AVULN-001",
      [verb, operator, IsOneOf ["input", "request", "params", "$_GET", "$_POST"]]),
    ("TL-AVULN-002",
      [IsMarkupAssignment, IsOneOf ["input", "request", "params", "$_GET", "$_POST"]]),
    ("TL-AVULN-003",
      [IsOneOf ["system(", "exec("], IsOneOf ["$_GET", "$_POST", "$_REQUEST"]])]

/-- The rule occurs once in a line that has the pieces in turn, and in no other line. -/
def OccursOnceWith (s : Signature) (form : List (Text → Prop)) : Prop :=
  ∀ line, newline ∉ line →
    (InTurn form line → s.pattern.count line = 1) ∧
      (¬ InTurn form line → s.pattern.count line = 0)

theorem occursOnceWith_queryVerb {s : Signature} {sinks : List Text} (hsinks : sinks ≠ [])
    (hlength : 0 < (flowParts [queryVerb, joinOperator] sinks).leastLength)
    (hs : s.pattern = flow [queryVerb, joinOperator] sinks) :
    OccursOnceWith s [IsOneOf ["SELECT", "INSERT", "UPDATE", "DELETE"], IsOneOf ["+", "||"],
      IsOneOf sinks] := by
  have hverb : queryVerb.Accepts = IsOneOf ["SELECT", "INSERT", "UPDATE", "DELETE"] :=
    accepts_words_eq (by simp)
  have hoperator : joinOperator.Accepts = IsOneOf ["+", "||"] := accepts_words_eq (by simp)
  intro line hline
  rw [hs, ← hverb, ← hoperator]
  refine count_flow (List.forall_mem_cons.mpr ⟨?_, List.forall_mem_singleton.mpr ?_⟩) hsinks
    hlength hline
  · exact isPrompt_words (by simp) (by decide +kernel) (by decide +kernel)
  · exact isPrompt_words (by simp) (by decide +kernel) (by decide +kernel)

theorem occursOnceWith_markupAssignment {s : Signature} {sinks : List Text} (hsinks : sinks ≠ [])
    (hlength : 0 < (flowParts [markupAssignment] sinks).leastLength)
    (hs : s.pattern = flow [markupAssignment] sinks) :
    OccursOnceWith s [IsMarkupAssignment, IsOneOf sinks] := by
  have hassignment : markupAssignment.Accepts = IsMarkupAssignment :=
    funext fun _ => propext accepts_markupAssignment
  intro line hline
  rw [hs, ← hassignment]
  exact count_flow (List.forall_mem_singleton.mpr isPrompt_markupAssignment) hsinks hlength hline

theorem occursOnceWith_words {s : Signature} {sources sinks : List Text} (hsources : sources ≠ [])
    (hnil : [] ∉ sources) (hends : noneEndsWithin sources = true) (hsinks : sinks ≠ [])
    (hlength : 0 < (flowParts [words sources] sinks).leastLength)
    (hs : s.pattern = flow [words sources] sinks) :
    OccursOnceWith s [IsOneOf sources, IsOneOf sinks] := by
  intro line hline
  rw [hs, ← accepts_words_eq hsources]
  exact count_flow (List.forall_mem_singleton.mpr (isPrompt_words hsources hnil hends)) hsinks
    hlength hline

/-- Three loops are found in one line, whatever stands between them. -/
theorem count_loops_pos_iff (hline : newline ∉ line) :
    0 < performance[0].pattern.count line ↔
      InTurn [IsOneOf ["for"], IsOneOf ["for"], IsOneOf ["for"]] line := by
  have hloop : (words ["for"]).IsPrompt :=
    isPrompt_words (by simp) (by decide +kernel) (by decide +kernel)
  have hloops : performance[0].pattern = sequence (words ["for"] ::
      ([words ["for"]].map firstUpTo ++ [shortGap, words ["for"]])) :=
    rfl
  rw [hloops, ← accepts_words_eq (by simp)]
  exact count_pos_iff_inTurn hloop.plain (List.forall_mem_singleton.mpr hloop) hloop.plain hline

theorem loops_present_iff (text : Text) :
    performance[0].label ∈ Indication.present text performance ↔
      0 < performance[0].pattern.count text := by
  have hlabels : ∀ s ∈ performance, s.label = performance[0].label →
      s.pattern = performance[0].pattern := by
    decide +kernel
  rw [Indication.present, List.mem_map]
  constructor
  · rintro ⟨s, hs, hlabel⟩
    obtain ⟨hmem, hfound⟩ := List.mem_filter.mp hs
    rw [hlabels s hmem hlabel] at hfound
    exact foundIn_iff.mp hfound
  · intro hpos
    exact ⟨_, List.mem_filter.mpr ⟨List.getElem_mem _, foundIn_iff.mpr hpos⟩, rfl⟩

/-- **The rules that commit themselves accept what their plain forms do**, line by line. -/
theorem plainForms_exact :
    List.Forall₂ (fun s form => s.ruleId = form.1 ∧ OccursOnceWith s form.2)
        ((vulnerabilities ++ advancedVulnerabilities).filter fun s =>
          s.ruleId ∈ plainForms.map Prod.fst)
        plainForms ∧
      ∃ s ∈ performance, s.ruleId = Text.ofString "TL-PERF-001" ∧
        ∀ text, s.label ∈ Indication.present text performance ↔
          ∃ line ∈ Text.lines text,
            InTurn [IsOneOf ["for"], IsOneOf ["for"], IsOneOf ["for"]] line := by
  constructor
  · have hrules : (vulnerabilities ++ advancedVulnerabilities).filter (fun s =>
        s.ruleId ∈ plainForms.map Prod.fst) =
          [vulnerabilities[0], vulnerabilities[1], vulnerabilities[4], advancedVulnerabilities[0],
            advancedVulnerabilities[1], advancedVulnerabilities[2]] := rfl
    rw [hrules]
    refine .cons ⟨rfl, ?_⟩ (.cons ⟨rfl, ?_⟩ (.cons ⟨rfl, ?_⟩ (.cons ⟨rfl, ?_⟩
      (.cons ⟨rfl, ?_⟩ (.cons ⟨rfl, ?_⟩ .nil)))))
    · exact occursOnceWith_queryVerb (by simp) (by decide +kernel) rfl
    · exact occursOnceWith_markupAssignment (by simp) (by decide +kernel) rfl
    · exact occursOnceWith_words (by simp) (by decide +kernel) (by decide +kernel) (by simp)
        (by decide +kernel) rfl
    · exact occursOnceWith_queryVerb (by simp) (by decide +kernel) rfl
    · exact occursOnceWith_markupAssignment (by simp) (by decide +kernel) rfl
    · exact occursOnceWith_words (by simp) (by decide +kernel) (by decide +kernel) (by simp)
        (by decide +kernel) rfl
  · refine ⟨performance[0], List.getElem_mem _, rfl, ?_⟩
    intro text
    have hnewline : performance[0].pattern.excludes newline = true := by decide +kernel
    rw [loops_present_iff, count_eq_sum_lines (by decide +kernel) rfl hnewline,
      List.sum_pos_iff_exists_pos_nat]
    constructor
    · rintro ⟨n, hn, hpos⟩
      obtain ⟨line, hline, rfl⟩ := List.mem_map.mp hn
      exact ⟨line, hline,
        (count_loops_pos_iff (Text.newline_notMem_of_mem_lines hline)).mp hpos⟩
    · rintro ⟨line, hline, hturn⟩
      exact ⟨_, List.mem_map.mpr ⟨line, hline, rfl⟩,
        (count_loops_pos_iff (Text.newline_notMem_of_mem_lines hline)).mpr hturn⟩

/-- The rule for queries commits itself to the first operator, which overlaps another one here. -/
theorem plainForms_exact_of_query :
    let line : Text := "Select a|||+Input"
    InTurn [IsOneOf ["SELECT", "INSERT", "UPDATE", "DELETE"], IsOneOf ["+", "||"],
        IsOneOf ["input", "request", "params"]] line ∧
      newline ∉ line ∧ vulnerabilities[0].pattern.count line = 1 := by
  intro line
  have hturn : InTurn [IsOneOf ["SELECT", "INSERT", "UPDATE", "DELETE"], IsOneOf ["+", "||"],
      IsOneOf ["input", "request", "params"]] line :=
    InTurn.cons_iff.mpr ⟨[], "Select", " a|||+Input", rfl, ⟨"SELECT", by simp, by decide +kernel⟩,
      InTurn.cons_iff.mpr ⟨" a|||", "+", "Input", rfl, ⟨"+", by simp, by decide +kernel⟩,
        InTurn.cons_iff.mpr ⟨[], "Input", [], rfl, ⟨"input", by simp, by decide +kernel⟩,
          .nil _⟩⟩⟩
  have hline : newline ∉ line := by decide +kernel
  have hrule : List.Forall₂ _ (vulnerabilities[0] :: _) (_ :: _) := plainForms_exact.1
  exact ⟨hturn, hline, ((List.forall₂_cons.mp hrule).1.2 line hline).1 hturn⟩

end Shipped
end ThreatScan
