/-
# A value that is assigned to a credential

The rule for assignments blots out what stands between an opening quotation mark and the next one.
The rules before it may rewrite the value, but not the quotation marks (`filter_redact`), nor the
name, the equals sign and the blanks in front of the value, where they start nothing
(`not_begins_of_suffix_opening`).  So a value without quotation marks is blotted out whole, whatever
else it holds.

The rule takes either quotation mark for the end of the value, whichever opened it.  What stands
behind the other one in a value stays in the log, so a value with one is never blotted out whole
(`redact_assigned_iff`).
-/
import ThreatScan.Proofs.Log.Rewriting
import ThreatScan.Proofs.Pattern.Words

namespace ThreatScan
namespace Redaction

open Pattern
open Text (IsBlank IsOneOf Spells)

/-! ## 1. Quotation marks -/

theorem has_quote_iff {x : CodePoint} : CharClass.quote.has x = true ↔ x = 34 ∨ x = 39 := by
  rw [has_quote, CharClass.notQuote, CharClass.has, Bool.not_not, List.contains_iff_mem]
  simp

theorem unquoted_iff_filter {t : Text} : Unquoted t ↔ t.filter CharClass.quote.has = [] := by
  rw [List.filter_eq_nil_iff]
  simp [Unquoted]

theorem Unquoted.notMem {t : Text} (h : Unquoted t) {q : CodePoint}
    (hq : CharClass.quote.has q = true) : q ∉ t := by
  intro hmem
  have hnot := h q hmem
  rw [hq] at hnot
  cases hnot

/-- A pattern that excludes both quotation marks takes none. -/
theorem unquoted_of_excludes {p : Pattern} (hp : (p.excludes 34 && p.excludes 39) = true)
    {w : Text} (hw : p.Accepts w) : Unquoted w := by
  rw [Bool.and_eq_true] at hp
  intro x hx
  by_contra hquote
  rw [Bool.not_eq_false, has_quote_iff] at hquote
  rcases hquote with rfl | rfl
  · exact notMem_of_excludes hp.1 hw hx
  · exact notMem_of_excludes hp.2 hw hx

/-- **Redaction keeps every quotation mark**, in their order. -/
theorem filter_redact (t : Text) :
    (redact t).filter CharClass.quote.has = t.filter CharClass.quote.has := by
  have hrules : ∀ r ∈ rules, isRegular r = true ∧
      (r.drop.excludes 34 && r.drop.excludes 39) = true := by decide
  have hkeep {rs : List RedactionRule} (hrs : rs ⊆ rules) (t : Text) :
      (rs.foldl apply t).filter CharClass.quote.has = t.filter CharClass.quote.has := by
    induction rs generalizing t with
    | nil => rfl
    | cons r rs ih =>
      obtain ⟨hr, hrs⟩ := List.cons_subset.mp hrs
      obtain ⟨hregular, hdrop⟩ := hrules r hr
      rw [List.foldl_cons, ih hrs]
      refine filter_of_rewrites (by decide) ?_ (rewrites_apply hregular t)
      exact fun v hv => unquoted_iff_filter.mp (unquoted_of_excludes hdrop hv)
  exact hkeep (List.Subset.refl rules) t

/-! ## 2. In front of the value -/

/-- The rules for tokens, which come before the one for assignments. -/
def tokenRules : List RedactionRule := rules.take 5

variable {r : RedactionRule} {name before after value t t' u v z : Text} {q : CodePoint}

/-- The name of a credential and an opening quotation mark, with blanks around the equals sign. -/
def opening (name before after : Text) (q : CodePoint) : Text :=
  name ++ (before ++ (61 :: (after ++ [q])))

/-- The name of a credential has eleven letters at most, and no capital B. -/
theorem name_bounds (hname : IsOneOf credentialNames name) : name.length ≤ 11 ∧ 66 ∉ name := by
  have hnames : ∀ t ∈ credentialNames,
      t.length ≤ 11 ∧ ∀ c ∈ t, Text.sameLetter c 66 = false := by decide
  obtain ⟨t, ht, hspells⟩ := hname
  obtain ⟨hlength, hletters⟩ := hnames t ht
  refine ⟨hspells.length_eq ▸ hlength, ?_⟩
  intro hmem
  obtain ⟨i, hi, heq⟩ := List.mem_iff_getElem.mp hmem
  have hi' : i < t.length := hspells.length_eq ▸ hi
  have hsame : Text.sameLetter t[i] name[i] = true := List.Forall₂.get hspells hi' hi
  rw [heq, hletters _ (List.getElem_mem hi')] at hsame
  cases hsame

/-- A secret of a rule for tokens that takes no blanks is longer than a name; the one other rule
starts with a letter that no name has. -/
theorem long_or_canStart (hr : r ∈ tokenRules) :
    (11 < r.keep.leastLength + r.drop.leastLength ∧
        ∀ x ∈ Text.blanks, (r.keep.excludes x && r.drop.excludes x) = true) ∨
      ∀ x, r.keep.canStart x = true → x = 66 := by
  have hrules : ∀ r ∈ tokenRules, (11 < r.keep.leastLength + r.drop.leastLength ∧
      ∀ x ∈ Text.blanks, (r.keep.excludes x && r.drop.excludes x) = true) ∨
        r.keep.firsts? = some [CharClass.exactly 66] := by decide
  refine (hrules r hr).imp_right ?_
  intro hfirsts x hx
  simpa [canStart, hfirsts, CharClass.exactly, CharClass.has, CharClass.covers,
    Nat.le_antisymm_iff, and_comm] using hx

/-- A piece without blanks that starts in front of blanks ends there, too. -/
theorem prefix_of_blank (hw : ∀ x ∈ t, Text.isBlank x = false) (hblank : IsBlank z)
    (h : t <+: u ++ z) : t <+: u := by
  cases z with
  | nil => rwa [List.append_nil] at h
  | cons x z =>
    have hx : x ∉ t := by
      intro hmem
      have hx := hw x hmem
      rw [hblank x List.mem_cons_self] at hx
      cases hx
    exact prefix_of_notMem hx h

/-- **A rule for tokens starts nothing in a name.** -/
theorem not_begins_of_suffix_name (hr : r ∈ tokenRules) (hname : IsOneOf credentialNames name)
    (hbefore : IsBlank before) (hz : z ≠ []) (hsuffix : z <:+ name) (s : Text) :
    ¬ Begins r (z ++ (before ++ 61 :: s)) := by
  have hrules : ∀ r ∈ tokenRules, isRegular r = true ∧
      (r.keep.excludes 61 && r.drop.excludes 61) = true := by decide
  obtain ⟨hregular, hequals⟩ := hrules r hr
  obtain ⟨hlength, hcapital⟩ := name_bounds hname
  intro hbegins
  rcases long_or_canStart hr with ⟨hlong, hblanks⟩ | hstart
  · -- The piece ends in front of the equals sign, hence in front of the blanks.
    obtain ⟨u, v, rest, heq, hu, hv⟩ := hbegins
    have hnotMem {x : CodePoint} (hx : (r.keep.excludes x && r.drop.excludes x) = true) :
        x ∉ u ++ v := by
      rw [Bool.and_eq_true] at hx
      exact List.mem_append.not.mpr
        (not_or.mpr ⟨notMem_of_excludes hx.1 hu, notMem_of_excludes hx.2 hv⟩)
    have hstart : u ++ v <+: (z ++ before) ++ 61 :: s := ⟨rest, by simp [heq]⟩
    have hinside : u ++ v <+: z := by
      refine prefix_of_blank ?_ hbefore (prefix_of_notMem (hnotMem hequals) hstart)
      intro x hx
      by_contra hblank
      exact hnotMem (hblanks x (Text.mem_blanks.mpr (by simpa using hblank))) hx
    have hle := leastLength_le hu
    have hle' := leastLength_le hv
    have hshort := hinside.length_le.trans (hsuffix.length_le.trans hlength)
    rw [List.length_append] at hshort
    omega
  · cases z with
    | nil => exact hz rfl
    | cons x z =>
      obtain rfl := hstart x (hbegins.canStart hregular)
      exact hcapital (hsuffix.subset List.mem_cons_self)

/-- The opening is copied by each of these rules. -/
theorem exists_of_opening (hr : r ∈ tokenRules) (hname : IsOneOf credentialNames name)
    (hbefore : IsBlank before) (hafter : IsBlank after) (hq : CharClass.quote.has q = true)
    (h : Rewrites r (opening name before after q ++ t) t') :
    ∃ s, t' = opening name before after q ++ s ∧ Rewrites r t s := by
  have hrules : ∀ r ∈ tokenRules, isRegular r = true ∧
      ∀ x ∈ 34 :: 39 :: 61 :: Text.blanks, r.keep.canStart x = false := by decide
  obtain ⟨hregular, hfirsts⟩ := hrules r hr
  have hdead : ∀ x ∈ before ++ 61 :: (after ++ [q]), r.keep.canStart x = false := by
    intro x hx
    refine hfirsts x ?_
    simp only [List.mem_append, List.mem_cons, List.not_mem_nil, or_false] at hx ⊢
    rcases hx with hx | rfl | hx | rfl
    · exact .inr (.inr (.inr (Text.mem_blanks.mpr (hbefore x hx))))
    · exact .inr (.inr (.inl rfl))
    · exact .inr (.inr (.inr (Text.mem_blanks.mpr (hafter x hx))))
    · exact (has_quote_iff.mp hq).imp_right .inl
  have hsplit : opening name before after q ++ t =
      name ++ ((before ++ 61 :: (after ++ [q])) ++ t) := List.append_assoc ..
  rw [hsplit] at h
  obtain ⟨rest, rfl, hrest⟩ := exists_of_dead (fun z hz hsuffix => by
    simpa using not_begins_of_suffix_name hr hname hbefore hz hsuffix (after ++ q :: t)) h
  obtain ⟨s, rfl, hs⟩ := exists_of_canStart hregular hdead hrest
  exact ⟨s, (List.append_assoc ..).symm, hs⟩

/-! ## 3. The value -/

/-- **A closing quotation mark stays behind the value**, which does not vanish. -/
theorem exists_of_closing (hr : r ∈ tokenRules) (hvalue : Unquoted value)
    (hq : CharClass.quote.has q = true) (h : Rewrites r (value ++ [q]) t') :
    ∃ value', t' = value' ++ [q] ∧ Unquoted value' ∧ (value ≠ [] → value' ≠ []) := by
  have hrules : ∀ r ∈ tokenRules, isRegular r = true ∧ 0 < r.keep.leastLength ∧
      (r.keep.excludes 34 && r.keep.excludes 39) = true ∧
        (r.drop.excludes 34 && r.drop.excludes 39) = true := by decide
  obtain ⟨hregular, hlength, hkeep, hdrop⟩ := hrules r hr
  have hmark : Unquoted mark := by
    rw [Unquoted]
    decide
  generalize heq : value ++ [q] = t at h
  induction h generalizing value with
  | done => simp at heq
  | copied _ hrest ih =>
    cases value with
    | nil =>
      obtain ⟨rfl, rfl⟩ := List.cons.inj heq
      rw [eq_nil_of_rewrites hregular hrest]
      exact ⟨[], rfl, List.forall_mem_nil _, fun h => absurd rfl h⟩
    | cons x value =>
      obtain ⟨rfl, htail⟩ := List.cons.inj heq
      obtain ⟨hx, hvalue⟩ := List.forall_mem_cons.mp hvalue
      obtain ⟨value', rfl, hvalue', -⟩ := ih hvalue htail
      exact ⟨x :: value', rfl, List.forall_mem_cons.mpr ⟨hx, hvalue'⟩, by simp⟩
  | @blotted u v s s' hsecret _ ih =>
    have hu := unquoted_of_excludes hkeep hsecret.keep
    have hv := unquoted_of_excludes hdrop hsecret.drop
    have hboth : Unquoted (u ++ v) := List.forall_mem_append.mpr ⟨hu, hv⟩
    have hnotMem : q ∉ u ++ v := hboth.notMem hq
    rw [← List.append_assoc] at heq
    obtain ⟨rest, rfl, hs⟩ : ∃ rest, value = (u ++ v) ++ rest ∧ s = rest ++ [q] := by
      obtain ⟨rest, hrest⟩ := prefix_of_notMem hnotMem (⟨s, heq.symm⟩ : u ++ v <+: value ++ q :: [])
      refine ⟨rest, hrest.symm, ?_⟩
      rw [← hrest, List.append_assoc] at heq
      exact (List.append_cancel_left heq).symm
    obtain ⟨value', rfl, hvalue', -⟩ := ih (List.forall_mem_append.mp hvalue).2 hs.symm
    refine ⟨u ++ (mark ++ value'), by simp, ?_, fun _ => by simp [mark_append]⟩
    exact List.forall_mem_append.mpr ⟨hu, List.forall_mem_append.mpr ⟨hmark, hvalue'⟩⟩

/-- The rules for tokens leave an assignment of a value without quotation marks. -/
theorem exists_of_tokenRules (hname : IsOneOf credentialNames name) (hbefore : IsBlank before)
    (hafter : IsBlank after) (hq : CharClass.quote.has q = true) (hvalue : Unquoted value)
    (hne : value ≠ []) :
    ∃ value', tokenRules.foldl apply (opening name before after q ++ (value ++ [q])) =
      opening name before after q ++ (value' ++ [q]) ∧ Unquoted value' ∧ value' ≠ [] := by
  have hregular : ∀ r ∈ tokenRules, isRegular r = true := by decide
  have hrun {rs : List RedactionRule} (hrs : rs ⊆ tokenRules) {value : Text}
      (hvalue : Unquoted value) (hne : value ≠ []) :
      ∃ value', rs.foldl apply (opening name before after q ++ (value ++ [q])) =
        opening name before after q ++ (value' ++ [q]) ∧ Unquoted value' ∧ value' ≠ [] := by
    induction rs generalizing value with
    | nil => exact ⟨value, rfl, hvalue, hne⟩
    | cons r rs ih =>
      obtain ⟨hr, hrs⟩ := List.cons_subset.mp hrs
      obtain ⟨s, hs, h⟩ := exists_of_opening hr hname hbefore hafter hq
        (rewrites_apply (hregular r hr) (opening name before after q ++ (value ++ [q])))
      obtain ⟨value', rfl, hvalue', hne'⟩ := exists_of_closing hr hvalue hq h
      rw [List.foldl_cons, hs]
      exact ih hrs hvalue' (hne' hne)
  exact hrun (List.Subset.refl _) hvalue hne

/-- The opening is what the rule for assignments keeps. -/
theorem accepts_opening (hname : IsOneOf credentialNames name) (hbefore : IsBlank before)
    (hafter : IsBlank after) (hq : CharClass.quote.has q = true) :
    assignment.Accepts (opening name before after q) := by
  have hblanks {b : Text} (hb : IsBlank b) : blanks.Accepts b := ⟨Nat.zero_le _, hb⟩
  refine accepts_sequence_cons.mpr ⟨name, _, rfl, (accepts_words (by decide)).mpr hname, ?_⟩
  refine accepts_sequence_cons.mpr ⟨before, _, rfl, hblanks hbefore, ?_⟩
  refine accepts_sequence_cons.mpr ⟨[61], after ++ [q], rfl, accepts_word.mpr (by decide), ?_⟩
  exact accepts_sequence_cons.mpr ⟨after, [q], rfl, hblanks hafter, .cons hq .nil⟩

/-- The part to blot out goes up to the next quotation mark. -/
theorem eq_of_drop (hq : CharClass.quote.has q = true) (hvalue : Unquoted value)
    (hv : assignmentRule.drop.Accepts v) (ht : AtQuote t) (h : value ++ [q] = v ++ t) :
    v = value ∧ t = [q] := by
  have hunquoted : Unquoted v := unquoted_of_excludes (p := assignmentRule.drop) (by decide) hv
  have hnotMem : q ∉ v := hunquoted.notMem hq
  obtain ⟨rest, rfl⟩ := prefix_of_notMem hnotMem (⟨t, h.symm⟩ : v <+: value ++ q :: [])
  rw [List.append_assoc] at h
  obtain rfl := List.append_cancel_left h
  cases rest with
  | nil => exact ⟨(List.append_nil v).symm, rfl⟩
  | cons x rest =>
    have hx := ht x rfl
    rw [hvalue x (by simp)] at hx
    cases hx

/-- **The rule for assignments blots out a value without quotation marks.** -/
theorem eq_of_rewrites_assignment (hname : IsOneOf credentialNames name) (hbefore : IsBlank before)
    (hafter : IsBlank after) (hq : CharClass.quote.has q = true) (hvalue : Unquoted value)
    (hne : value ≠ [])
    (h : Rewrites assignmentRule (opening name before after q ++ (value ++ [q])) t') :
    t' = opening name before after q ++ (mark ++ [q]) := by
  have hopening := accepts_opening hname hbefore hafter hq
  have hnotQuote : ∀ x ∈ value, CharClass.notQuote.has x = true := by
    intro x hx
    simpa [has_quote] using hvalue x hx
  obtain ⟨front, q', hsplit, hfront, hq'⟩ := exists_of_accepts_assignment hopening
  generalize heq : opening name before after q ++ (value ++ [q]) = t at h
  cases h with
  | done => simp [opening] at heq
  | copied hbegins =>
    have hlength : 1 ≤ value.length := List.length_pos_iff.mpr hne
    exact absurd ⟨_, value, [q], heq.symm, hopening, hlength, hnotQuote⟩ hbegins
  | @blotted u v s s' hsecret hrest =>
    obtain ⟨front', q'', rfl, hfront', hq''⟩ := exists_of_accepts_assignment hsecret.keep
    rw [hsplit] at heq ⊢
    simp only [List.append_assoc, List.singleton_append] at heq ⊢
    obtain ⟨rfl, -⟩ := eq_of_unquoted hfront hfront' hq' hq'' heq
    obtain ⟨rfl, htail⟩ := List.cons.inj (List.append_cancel_left heq)
    obtain ⟨rfl, rfl⟩ := eq_of_drop hq hvalue hsecret.drop hsecret.atQuote htail
    have hdead : ∀ x ∈ [q], assignmentRule.keep.canStart x = false := by
      intro x hx
      obtain rfl := List.mem_singleton.mp hx
      rcases has_quote_iff.mp hq with rfl | rfl <;> decide
    obtain ⟨rest, rfl, hnil⟩ := exists_of_canStart (t := []) isRegular_assignmentRule hdead hrest
    rw [eq_nil_of_rewrites isRegular_assignmentRule hnil]
    simp

/-! ## 4. Redaction -/

/-- **A value that is assigned to a credential is blotted out whole** exactly if it holds no
quotation mark. -/
theorem redact_assigned_iff (hname : IsOneOf credentialNames name) (hbefore : IsBlank before)
    (hafter : IsBlank after) (hq : CharClass.quote.has q = true) (hne : value ≠ []) :
    redact (opening name before after q ++ (value ++ [q])) =
      opening name before after q ++ (mark ++ [q]) ↔ Unquoted value := by
  constructor
  · intro h
    have hquotes := filter_redact (opening name before after q ++ (value ++ [q]))
    rw [h] at hquotes
    simp only [List.filter_append] at hquotes
    have hmark : mark.filter CharClass.quote.has = [] := by decide
    rw [hmark, List.nil_append] at hquotes
    exact unquoted_iff_filter.mpr
      (List.append_cancel_right (List.append_cancel_left hquotes)).symm
  · intro hvalue
    obtain ⟨value', h, hvalue', hne'⟩ :=
      exists_of_tokenRules hname hbefore hafter hq hvalue hne
    have hredact : redact (opening name before after q ++ (value ++ [q])) =
        apply (tokenRules.foldl apply (opening name before after q ++ (value ++ [q])))
          assignmentRule := rfl
    rw [hredact, h]
    exact eq_of_rewrites_assignment hname hbefore hafter hq hvalue' hne'
      (rewrites_apply isRegular_assignmentRule _)

/-- A value that spans two lines and holds the shape of a token and another assignment. -/
theorem redact_assigned_iff_of_lines :
    let value : Text := "sk-abcdefghijkl\npassword=x"
    IsOneOf credentialNames "Api_Key" ∧ IsBlank " " ∧ IsBlank [] ∧
      CharClass.quote.has 39 = true ∧ value ≠ [] ∧ Unquoted value ∧
      redact (opening "Api_Key" " " [] 39 ++ (value ++ [39])) =
        opening "Api_Key" " " [] 39 ++ (mark ++ [39]) := by
  intro value
  have hname : IsOneOf credentialNames "Api_Key" := ⟨"api_key", by decide, by decide⟩
  have hbefore : IsBlank " " := by
    rw [IsBlank]
    decide
  have hafter : IsBlank [] := List.forall_mem_nil _
  have hq : CharClass.quote.has 39 = true := by decide
  have hne : value ≠ [] := by decide
  have hvalue : Unquoted value := by
    rw [Unquoted]
    decide
  exact ⟨hname, hbefore, hafter, hq, hne, hvalue,
    (redact_assigned_iff hname hbefore hafter hq hne).mpr hvalue⟩

/-- Behind the other quotation mark the rest of a value stays. -/
theorem redact_assigned_ne :
    let value : Text := "it's"
    IsOneOf credentialNames "password" ∧ IsBlank " " ∧ CharClass.quote.has 34 = true ∧
      value ≠ [] ∧ 34 ∉ value ∧
      redact (opening "password" " " " " 34 ++ (value ++ [34])) =
        opening "password" " " " " 34 ++ (mark ++ (("'s" : Text) ++ [34])) ∧
      redact (opening "password" " " " " 34 ++ (value ++ [34])) ≠
        opening "password" " " " " 34 ++ (mark ++ [34]) := by
  refine ⟨⟨"password", by decide, by decide⟩, ?_, by decide, by decide, by decide,
    by decide, by decide⟩
  rw [IsBlank]
  decide

end Redaction
end ThreatScan
