/-
# What redaction leaves

A rule reads its text from left to right.  It copies a code point that starts no secret, and of a
secret it keeps the first part and writes the mark for the second.  `Rewrites` says just that,
without offsets and accumulators, and everything here is an induction on it.

Two facts carry the result.  A rule leaves nothing of a form that it finds
(`Covers.not_infix_of_rewrites`), and no later rule brings the form back: the mark is bracketed, no
form has a bracket, and the word between the brackets is shorter than each form
(`infix_of_rewrites`).  The last rule blots out what is assigned to a credential up to the next
quotation mark (`closed_of_rewrites`).
-/
import Mathlib.Data.List.Infix
import ThreatScan.Log.Redaction
import ThreatScan.Proofs.Pattern.Margin

namespace ThreatScan
namespace Redaction

open Pattern

/-! ## 1. Texts around a separator -/

section Separator

variable {a w z x y : Text} {sep : CodePoint}

/-- A text without the separator lies on one side of it. -/
theorem split_of_notMem (hsep : sep ∉ w) (h : a ++ w ++ z = x ++ sep :: y) :
    (∃ b, x = a ++ w ++ b ∧ z = b ++ sep :: y) ∨ ∃ b, a = x ++ sep :: b ∧ y = b ++ w ++ z := by
  rcases List.append_eq_append_iff.mp h with ⟨b, hx, hz⟩ | ⟨b, haw, hy⟩
  · exact .inl ⟨b, hx, hz⟩
  · cases b with
    | nil =>
      refine .inl ⟨[], ?_, ?_⟩
      · simpa using haw.symm
      · simpa using hy.symm
    | cons c b =>
      obtain ⟨rfl, rfl⟩ : sep = c ∧ y = b ++ z := by simpa using hy
      rcases List.append_eq_append_iff.mp haw with ⟨v, -, hw⟩ | ⟨v, ha, hb⟩
      · exact absurd (hw ▸ by simp) hsep
      · cases v with
        | nil =>
          obtain rfl : sep :: b = w := by simpa using hb
          exact absurd List.mem_cons_self hsep
        | cons c v =>
          obtain ⟨rfl, rfl⟩ : sep = c ∧ b = v ++ w := by simpa using hb
          have ha' : a ++ w = (x ++ sep :: v) ++ w := by simp [haw]
          exact .inr ⟨v, List.append_cancel_right ha', by simp⟩

theorem infix_or_of_notMem (hsep : sep ∉ w) (h : w <:+: x ++ sep :: y) : w <:+: x ∨ w <:+: y := by
  obtain ⟨a, z, h⟩ := h
  rcases split_of_notMem hsep h with ⟨b, rfl, -⟩ | ⟨b, -, rfl⟩
  · exact .inl ⟨a, b, rfl⟩
  · exact .inr ⟨b, z, rfl⟩

theorem prefix_of_notMem (hsep : sep ∉ w) (h : w <+: x ++ sep :: y) : w <+: x := by
  obtain ⟨z, h⟩ := h
  rcases split_of_notMem (a := []) hsep h with ⟨b, hx, -⟩ | ⟨b, hb, -⟩
  · exact ⟨b, hx.symm⟩
  · simp at hb

end Separator

/-! ## 2. What a rule does -/

/-- The text `u ++ v` in front of `s` is a secret: `u` stays, and `v` is what the second part of
the rule takes first. -/
structure IsSecret (r : RedactionRule) (u v s : Text) : Prop where
  keep : r.keep.Accepts u
  drop : r.drop.Accepts v
  first : ∃ offset, (r.drop.ends ⟨offset, v ++ s⟩).head? = some ⟨offset + v.length, s⟩

/-- The text begins with a kept part and something to blot out. -/
def Begins (r : RedactionRule) (t : Text) : Prop :=
  ∃ u v s, t = u ++ (v ++ s) ∧ r.keep.Accepts u ∧ r.drop.Accepts v

/-- The rule makes the second text from the first. -/
inductive Rewrites (r : RedactionRule) : Text → Text → Prop
  | done : Rewrites r [] []
  | copied {x : CodePoint} {t t' : Text} :
    ¬ Begins r (x :: t) → Rewrites r t t' → Rewrites r (x :: t) (x :: t')
  | blotted {u v s s' : Text} :
    IsSecret r u v s → Rewrites r s s' → Rewrites r (u ++ (v ++ s)) (u ++ (mark ++ s'))

/-- Both parts of the rule are plain, and something of a secret stays. -/
def isRegular (r : RedactionRule) : Bool :=
  r.keep.isPlain && r.drop.isPlain && decide (0 < r.keep.leastLength)

variable {r : RedactionRule}

theorem secretAt_eq (r : RedactionRule) (c : Cursor) :
    secretAt r c = (r.keep.ends c).findSome? fun m =>
      (r.drop.ends m).head?.map fun e => (m.offset, e.offset) := by
  simp only [secretAt, run_some]
  exact run_eq_findSome? ..

theorem not_begins_of_secretAt (hr : isRegular r = true) {offset : ℕ} {t : Text}
    (h : secretAt r ⟨offset, t⟩ = none) : ¬ Begins r t := by
  simp only [isRegular, Bool.and_eq_true] at hr
  rintro ⟨u, v, s, rfl, hu, hv⟩
  rw [secretAt_eq, List.findSome?_eq_none_iff] at h
  have hm := mem_ends_of_accepts hr.1.1
    (c := ⟨offset, u ++ (v ++ s)⟩) (d := ⟨offset + u.length, v ++ s⟩) ⟨rfl, rfl⟩ hu
  have hd := mem_ends_of_accepts hr.1.2
    (c := ⟨offset + u.length, v ++ s⟩) (d := ⟨offset + u.length + v.length, s⟩) ⟨rfl, rfl⟩ hv
  have hnone := h _ hm
  rw [Option.map_eq_none_iff, List.head?_eq_none_iff] at hnone
  rw [hnone] at hd
  cases hd

theorem isSecret_of_secretAt {offset kept stop : ℕ} {t : Text}
    (h : secretAt r ⟨offset, t⟩ = some (kept, stop)) :
    ∃ u v s, t = u ++ (v ++ s) ∧ IsSecret r u v s ∧ kept = offset + u.length ∧
      stop = kept + v.length := by
  rw [secretAt_eq] at h
  obtain ⟨m, hm, he⟩ := List.exists_of_findSome?_eq_some h
  obtain ⟨e, hhead, hpair⟩ := Option.map_eq_some_iff.mp he
  obtain ⟨rfl, rfl⟩ := Prod.mk.inj hpair
  obtain ⟨u, hu, hkeep⟩ := accepts_of_mem_ends hm
  obtain ⟨v, hv, hdrop⟩ := accepts_of_mem_ends (List.mem_of_mem_head? hhead)
  refine ⟨u, v, e.rest, ?_, ⟨hkeep, hdrop, m.offset, ?_⟩, hu.offset, hv.offset⟩
  · rw [← hv.rest]
    exact hu.rest
  · rw [← hv.rest, ← hv.offset]
    exact hhead

theorem applyFrom_skip (r : RedactionRule) (offset : ℕ) (u t done : Text) :
    applyFrom r offset (u ++ t) u.length done = applyFrom r (offset + u.length) t 0 done := by
  induction u generalizing offset with
  | nil => rfl
  | cons x u ih =>
    rw [List.cons_append, List.length_cons, applyFrom, ih, Nat.add_assoc, Nat.add_comm 1]

/-- **What a rule makes of a text is a rewriting of it.** -/
theorem rewrites_applyFrom (hr : isRegular r = true) (offset : ℕ) (t done : Text) :
    ∃ t', applyFrom r offset t 0 done = done.reverse ++ t' ∧ Rewrites r t t' := by
  induction hn : t.length using Nat.strong_induction_on generalizing offset t done with
  | h n ih =>
    subst hn
    cases t with
    | nil => exact ⟨[], (List.append_nil _).symm, .done⟩
    | cons x t =>
      rw [applyFrom]
      split
      case h_1 kept stop h =>
        obtain ⟨u, v, s, ht, hsecret, rfl, rfl⟩ := isSecret_of_secretAt h
        have hpos : 0 < u.length := by
          simp only [isRegular, Bool.and_eq_true, decide_eq_true_eq] at hr
          exact Nat.lt_of_lt_of_le hr.2 (leastLength_le hsecret.keep)
        cases u with
        | nil => cases hpos
        | cons y u =>
          obtain ⟨rfl, rfl⟩ : x = y ∧ t = (u ++ v) ++ s := by simpa using ht
          have hskip : offset + (x :: u).length + v.length - offset - 1 = (u ++ v).length := by
            simp only [List.length_cons, List.length_append]
            omega
          have hkept :
              (x :: ((u ++ v) ++ s)).take (offset + (x :: u).length - offset) = x :: u := by
            rw [Nat.add_sub_cancel_left]
            simp
          obtain ⟨s', hs', hrewrites⟩ := ih s.length (by simp; omega)
            (offset + 1 + (u ++ v).length) s (mark.reverse ++ ((x :: u).reverse ++ done)) rfl
          refine ⟨(x :: u) ++ (mark ++ s'), ?_, ?_⟩
          · rw [hskip, applyFrom_skip, hkept, hs']
            simp
          · rw [ht]
            exact .blotted hsecret hrewrites
      case h_2 h =>
        obtain ⟨t', ht', hrewrites⟩ :=
          ih t.length (Nat.lt_succ_self _) (offset + 1) t (x :: done) rfl
        refine ⟨x :: t', ?_, .copied (not_begins_of_secretAt hr h) hrewrites⟩
        rw [ht', List.reverse_cons, List.append_assoc]
        rfl

theorem rewrites_apply (hr : isRegular r = true) (t : Text) : Rewrites r t (apply t r) := by
  obtain ⟨t', ht', hrewrites⟩ := rewrites_applyFrom hr 0 t []
  rw [apply, ht']
  exact hrewrites

/-! ## 3. No form comes back -/

/-- A text that the mark can be no part of: it has no bracket, and the word between the brackets
is too short for it. -/
structure Unmarked (w : Text) : Prop where
  opening : 91 ∉ w
  closing : 93 ∉ w
  length : 8 < w.length

variable {t t' w : Text}

theorem mark_append (s : Text) : mark ++ s = 91 :: (("REDACTED" : Text) ++ 93 :: s) := rfl

/-- A mark is between the texts around it. -/
theorem Unmarked.infix_or (hw : Unmarked w) {u s : Text} (h : w <:+: u ++ (mark ++ s)) :
    w <:+: u ∨ w <:+: s := by
  rw [mark_append] at h
  rcases infix_or_of_notMem hw.opening h with h | h
  · exact .inl h
  · rcases infix_or_of_notMem hw.closing h with h | h
    · exact absurd h.length_le (Nat.not_le_of_lt hw.length)
    · exact .inr h

theorem prefix_of_rewrites (hw : 91 ∉ w) (h : Rewrites r t t') (hstart : w <+: t') : w <+: t := by
  induction h generalizing w with
  | done => exact hstart
  | @copied x t t' _ _ ih =>
    cases w with
    | nil => exact List.nil_prefix
    | cons y w =>
      obtain ⟨rfl, htail⟩ := List.cons_prefix_cons.mp hstart
      exact List.cons_prefix_cons.mpr ⟨rfl, ih (List.not_mem_of_not_mem_cons hw) htail⟩
  | blotted _ _ _ => exact (prefix_of_notMem hw hstart).trans (List.prefix_append _ _)

/-- **A rule writes no text that the mark is no part of**: where it stands, it has stood before. -/
theorem infix_of_rewrites (hw : Unmarked w) (h : Rewrites r t t') (hinside : w <:+: t') :
    w <:+: t := by
  induction h with
  | done => exact hinside
  | copied hbegins hrest ih =>
    rcases List.infix_cons_iff.mp hinside with hstart | hinside
    · exact (prefix_of_rewrites hw.opening (.copied hbegins hrest) hstart).isInfix
    · exact List.infix_cons_iff.mpr (.inr (ih hinside))
  | @blotted u v s s' _ _ ih =>
    rcases hw.infix_or hinside with hinside | hinside
    · exact hinside.trans (List.prefix_append _ _).isInfix
    · exact (ih hinside).trans (List.append_assoc u v s ▸ (List.suffix_append _ _).isInfix)

/-! ## 4. A rule clears its form -/

/-- The rule finds every text of the form, and what it keeps holds none. -/
structure Covers (r : RedactionRule) (p : Pattern) : Prop where
  unmarked : ∀ w, p.Accepts w → Unmarked w
  finds : ∀ w, p.Accepts w → ∃ u v, w = u ++ v ∧ r.keep.Accepts u ∧ r.drop.Accepts v
  short : ∀ u w, r.keep.Accepts u → p.Accepts w → ¬ w <:+: u

variable {p : Pattern}

theorem Covers.begins (h : Covers r p) (hw : p.Accepts w) (hstart : w <+: t) : Begins r t := by
  obtain ⟨s, rfl⟩ := hstart
  obtain ⟨u, v, rfl, hu, hv⟩ := h.finds w hw
  exact ⟨u, v, s, List.append_assoc .., hu, hv⟩

/-- **A rule leaves no text of the form that it covers.** -/
theorem Covers.not_infix_of_rewrites (h : Covers r p) (hw : p.Accepts w)
    (hrewrites : Rewrites r t t') : ¬ w <:+: t' := by
  have hunmarked := h.unmarked w hw
  induction hrewrites with
  | done =>
    intro hinside
    exact Nat.not_lt_zero _ (Nat.lt_of_lt_of_le hunmarked.length hinside.length_le)
  | copied hbegins hrest ih =>
    intro hinside
    rcases List.infix_cons_iff.mp hinside with hstart | hinside
    · have hbefore := prefix_of_rewrites hunmarked.opening (.copied hbegins hrest) hstart
      exact hbegins (h.begins hw hbefore)
    · exact ih hinside
  | blotted hsecret hrest ih =>
    intro hinside
    rcases hunmarked.infix_or hinside with hinside | hinside
    · exact h.short _ _ hsecret.keep hw hinside
    · exact ih hinside

/-- **Later rules do not bring a form back.** -/
theorem Covers.not_infix_foldl {rs : List RedactionRule} (hrs : ∀ r ∈ rs, isRegular r = true)
    (hr : r ∈ rs) (h : Covers r p) (hw : p.Accepts w) (t : Text) : ¬ w <:+: rs.foldl apply t := by
  have hlater : ∀ rs : List RedactionRule, (∀ r ∈ rs, isRegular r = true) →
      ∀ t, w <:+: rs.foldl apply t → w <:+: t := by
    intro rs
    induction rs with
    | nil => exact fun _ _ hinside => hinside
    | cons r rs ih =>
      intro hrs t hinside
      have hbefore := ih (List.forall_mem_cons.mp hrs).2 _ hinside
      have hr := (List.forall_mem_cons.mp hrs).1
      exact infix_of_rewrites (h.unmarked w hw) (rewrites_apply hr t) hbefore
  obtain ⟨before, after, rfl⟩ := List.append_of_mem hr
  rw [List.foldl_append, List.foldl_cons]
  intro hinside
  have hregular : isRegular r = true := hrs r hr
  refine h.not_infix_of_rewrites hw (rewrites_apply hregular _) (hlater after ?_ _ hinside)
  intro r' hr'
  exact hrs r' (by simp [hr'])

/-! ## 5. The forms of a secret -/

/-- The forms of a secret. -/
def secretShapes : List Pattern := [
  sequence [exact "sk-ant-", times 11 keyChar],
  sequence [exact "sk-", times 11 .alphanumeric],
  sequence [exact "AKIA", times 16 capitalChar],
  sequence [exact "ghp_", times 4 .alphanumeric, times 32 wordChar],
  sequence [exact "Bearer", someOf .blank, times 11 tokenChar]]

theorem unmarked_of_mem_secretShapes (hp : p ∈ secretShapes) (hw : p.Accepts w) : Unmarked w := by
  have hshapes : ∀ p ∈ secretShapes,
      p.excludes 91 = true ∧ p.excludes 93 = true ∧ 8 < p.leastLength := by decide
  obtain ⟨hopening, hclosing, hlength⟩ := hshapes p hp
  exact ⟨notMem_of_excludes hopening hw, notMem_of_excludes hclosing hw,
    Nat.lt_of_lt_of_le hlength (leastLength_le hw)⟩

/-- A run that ends a text is cut in two. -/
theorem split_times (ps : List Pattern) (m n : ℕ) {k : CharClass}
    (h : (sequence (ps ++ [times (m + n) k])).Accepts w) :
    ∃ u v, w = u ++ v ∧ (sequence (ps ++ [times m k])).Accepts u ∧ (times n k).Accepts v := by
  obtain ⟨a, b, rfl, ha, hb⟩ := (accepts_sequence_append _ _).mp h
  obtain ⟨hlength, hk⟩ := accepts_times.mp (accepts_sequence_singleton.mp hb)
  refine ⟨a ++ b.take m, b.drop m, ?_, ?_, ?_⟩
  · rw [List.append_assoc, List.take_append_drop]
  · refine (accepts_sequence_append _ _).mpr ⟨a, b.take m, rfl, ha, ?_⟩
    refine accepts_sequence_singleton.mpr (accepts_times.mpr ⟨?_, ?_⟩)
    · rw [List.length_take, hlength, Nat.min_eq_left (Nat.le_add_right m n)]
    · intro x hx
      exact hk x (List.mem_of_mem_take hx)
  · refine accepts_times.mpr ⟨?_, ?_⟩
    · rw [List.length_drop, hlength, Nat.add_sub_cancel_left]
    · intro x hx
      exact hk x (List.mem_of_mem_drop hx)

theorem accepts_anyOf_of_times {n : ℕ} {k : CharClass} (h : (times n k).Accepts w) :
    (anyOf k).Accepts w :=
  ⟨Nat.zero_le _, (accepts_times.mp h).2⟩

/-- What is kept is too short for the form. -/
theorem not_infix_of_length {q : Pattern} {n : ℕ} (hq : q.greatestLength? = some n)
    (hn : n < p.leastLength) {u : Text} (hu : q.Accepts u) (hw : p.Accepts w) : ¬ w <:+: u := by
  intro hinside
  have hlong := leastLength_le hw
  have hshort := le_greatestLength hq hu
  have hlength := hinside.length_le
  omega

theorem not_blank_of_tokenChar {x : CodePoint} (h : tokenChar.has x = true) :
    CharClass.blank.has x = false := by
  have hblank := CharClass.isBlank_eq_false_of_isSolid (k := tokenChar) (by decide) h
  rw [← hblank]
  rfl

/-- The kept part of a bearer token has one run of blanks and ten characters behind it, so no form
of a bearer token, which has eleven, fits in. -/
theorem not_infix_bearer {u : Text}
    (hu : (sequence [exact "Bearer", someOf .blank, times 10 tokenChar]).Accepts u)
    (hw : (sequence [exact "Bearer", someOf .blank, times 11 tokenChar]).Accepts w) :
    ¬ w <:+: u := by
  obtain ⟨_, _, rfl, hbearer, hu⟩ := accepts_sequence_cons.mp hu
  obtain ⟨bl, tok, rfl, hbl, htok⟩ := accepts_sequence_cons.mp hu
  obtain ⟨_, _, rfl, hbearer', hw⟩ := accepts_sequence_cons.mp hw
  obtain ⟨bl', tok', rfl, hbl', htok'⟩ := accepts_sequence_cons.mp hw
  obtain rfl := accepts_exact.mp hbearer
  obtain rfl := accepts_exact.mp hbearer'
  obtain ⟨hlength, htok⟩ := accepts_times.mp (accepts_sequence_singleton.mp htok)
  obtain ⟨hlength', htok'⟩ := accepts_times.mp (accepts_sequence_singleton.mp htok')
  rintro ⟨before, after, h⟩
  -- The last blank of the form is followed by eleven characters of a token.
  obtain ⟨front, b, rfl⟩ : ∃ front b, bl' = front ++ [b] :=
    (List.eq_nil_or_concat' bl').resolve_left fun h => absurd (h ▸ hbl'.1) (by decide)
  have hb : CharClass.blank.has b = true := hbl'.2 b (by simp)
  have hnotMem : ∀ {y : Text}, (∀ x ∈ y, CharClass.blank.has x = false) → b ∉ y := by
    intro y hy hmem
    rw [hy b hmem] at hb
    cases hb
  have htoken : b ∉ tok := hnotMem fun x hx => not_blank_of_tokenChar (htok x hx)
  have hname : b ∉ ("Bearer" : Text) := hnotMem (by decide)
  have hcut : (("Bearer" : Text) ++ bl) ++ tok ++ [] =
      (before ++ (("Bearer" : Text) ++ front)) ++ b :: (tok' ++ after) := by
    simpa using h.symm
  rcases split_of_notMem htoken hcut with ⟨z, -, hz⟩ | ⟨gap, hbefore, hafter⟩
  · simp at hz
  rcases split_of_notMem (a := []) hname hbefore with ⟨z, -, hz⟩ | ⟨z, hz, -⟩
  swap
  · simp at hz
  cases gap with
  | nil =>
    have hcount := congrArg List.length hafter
    simp only [List.length_append, List.nil_append, List.length_nil] at hcount
    omega
  | cons c gap =>
    have hblank : CharClass.blank.has c = true := hbl.2 c (by simp [hz])
    cases tok' with
    | nil => cases hlength'
    | cons x tok' =>
      obtain ⟨rfl, -⟩ : x = c ∧ _ := by simpa using hafter
      rw [not_blank_of_tokenChar (htok' x List.mem_cons_self)] at hblank
      cases hblank

/-- **Each form has a rule that covers it.** -/
theorem exists_covers (hp : p ∈ secretShapes) : ∃ r ∈ rules, Covers r p := by
  have hunmarked := fun w => unmarked_of_mem_secretShapes (w := w) hp
  simp only [secretShapes, List.mem_cons, List.not_mem_nil, or_false] at hp
  rcases hp with rfl | rfl | rfl | rfl | rfl
  · refine ⟨⟨sequence [exact "sk-ant-", times 10 keyChar], anyOf keyChar⟩, by simp [rules],
      hunmarked, ?_, fun u w => not_infix_of_length (n := 17) (by decide) (by decide)⟩
    intro w hw
    obtain ⟨u, v, rfl, hu, hv⟩ := split_times [exact "sk-ant-"] 10 1 hw
    exact ⟨u, v, rfl, hu, accepts_anyOf_of_times hv⟩
  · refine ⟨⟨sequence [exact "sk-", times 10 .alphanumeric], anyOf .alphanumeric⟩, by simp [rules],
      hunmarked, ?_, fun u w => not_infix_of_length (n := 13) (by decide) (by decide)⟩
    intro w hw
    obtain ⟨u, v, rfl, hu, hv⟩ := split_times [exact "sk-"] 10 1 hw
    exact ⟨u, v, rfl, hu, accepts_anyOf_of_times hv⟩
  · refine ⟨⟨sequence [exact "AKIA", times 4 capitalChar], times 12 capitalChar⟩, by simp [rules],
      hunmarked, ?_, fun u w => not_infix_of_length (n := 8) (by decide) (by decide)⟩
    intro w hw
    exact split_times [exact "AKIA"] 4 12 hw
  · refine ⟨⟨sequence [exact "ghp_", times 4 .alphanumeric], many wordChar 32 false⟩,
      by simp [rules], hunmarked, ?_,
      fun u w => not_infix_of_length (n := 8) (by decide) (by decide)⟩
    intro w hw
    obtain ⟨u, v, rfl, hu, hv⟩ := (accepts_sequence_append
      [exact "ghp_", times 4 .alphanumeric] [times 32 wordChar]).mp hw
    obtain ⟨hlength, hk⟩ := accepts_times.mp (accepts_sequence_singleton.mp hv)
    exact ⟨u, v, rfl, hu, hlength.ge, hk⟩
  · refine ⟨⟨sequence [exact "Bearer", someOf .blank, times 10 tokenChar], anyOf tokenChar⟩,
      by simp [rules], hunmarked, ?_, fun u w => not_infix_bearer⟩
    intro w hw
    obtain ⟨u, v, rfl, hu, hv⟩ :=
      split_times [exact "Bearer", someOf .blank] 10 1 hw
    exact ⟨u, v, rfl, hu, accepts_anyOf_of_times hv⟩

/-! ## 6. What is assigned to a credential -/

/-- The name of a credential, an equals sign and an opening quotation mark. -/
def assignment : Pattern :=
  sequence [words credentialNames, blanks, word "=", blanks, one .quote]

/-- The rule for assignments. -/
def assignmentRule : RedactionRule := ⟨assignment, someOf .notQuote⟩

/-- The text is empty or begins with a quotation mark. -/
def AtQuote (t : Text) : Prop := ∀ x ∈ t.head?, CharClass.quote.has x = true

/-- Nothing or just the mark stands before the next quotation mark or the end. -/
def Closed (t : Text) : Prop := AtQuote t ∨ ∃ s, t = mark ++ s ∧ AtQuote s

/-- No quotation mark. -/
def Unquoted (t : Text) : Prop := ∀ x ∈ t, CharClass.quote.has x = false

theorem has_quote (x : CodePoint) : CharClass.quote.has x = !CharClass.notQuote.has x := by
  rw [Bool.eq_iff_iff]
  simp only [CharClass.quote, CharClass.notQuote, CharClass.has, CharClass.covers,
    List.contains_iff_mem, List.mem_cons, List.not_mem_nil, Bool.or_eq_true, Bool.and_eq_true,
    decide_eq_true_eq, Bool.not_not, Bool.false_eq_true, or_false]
  unfold CodePoint at *
  omega

/-- An assignment has its only quotation mark at its end. -/
theorem exists_of_accepts_assignment (hw : assignment.Accepts w) :
    ∃ front q, w = front ++ [q] ∧ Unquoted front ∧ CharClass.quote.has q = true := by
  obtain ⟨front, v, rfl, hfront, hv⟩ := (accepts_sequence_append
    [words credentialNames, blanks, word "=", blanks] [one .quote]).mp hw
  obtain ⟨q, v, hq, hnil, rfl⟩ := List.forall₂_cons_left_iff.mp hv
  obtain rfl := List.forall₂_nil_left_iff.mp hnil
  refine ⟨front, q, rfl, ?_, hq⟩
  have hdouble := notMem_of_excludes (x := 34) (by decide) hfront
  have hsingle := notMem_of_excludes (x := 39) (by decide) hfront
  intro x hx
  rw [has_quote, CharClass.notQuote, CharClass.has]
  have hne : x ≠ 34 ∧ x ≠ 39 := ⟨fun h => hdouble (h ▸ hx), fun h => hsingle (h ▸ hx)⟩
  simp [hne]

/-- The first quotation mark of a text cuts it in one way. -/
theorem eq_of_unquoted {front front' rest rest' : Text} {q q' : CodePoint}
    (hfront : Unquoted front) (hfront' : Unquoted front') (hq : CharClass.quote.has q = true)
    (hq' : CharClass.quote.has q' = true) (h : front ++ q :: rest = front' ++ q' :: rest') :
    front = front' ∧ rest = rest' := by
  induction front generalizing front' with
  | nil =>
    cases front' with
    | nil => exact ⟨rfl, (List.cons.inj h).2⟩
    | cons x front' =>
      obtain ⟨rfl, -⟩ := List.cons.inj h
      rw [hfront' q List.mem_cons_self] at hq
      cases hq
  | cons x front ih =>
    cases front' with
    | nil =>
      obtain ⟨rfl, -⟩ := List.cons.inj h
      rw [hfront x List.mem_cons_self] at hq'
      cases hq'
    | cons y front' =>
      obtain ⟨rfl, htail⟩ := List.cons.inj h
      obtain ⟨rfl, hrest⟩ := ih (List.forall_mem_cons.mp hfront).2
        (List.forall_mem_cons.mp hfront').2 htail
      exact ⟨rfl, hrest⟩

/-- A regular rule leaves the first code point. -/
theorem head?_of_rewrites (hr : isRegular r = true) (h : Rewrites r t t') : t'.head? = t.head? := by
  cases h with
  | done => rfl
  | copied => rfl
  | @blotted u _ _ _ hsecret =>
    simp only [isRegular, Bool.and_eq_true, decide_eq_true_eq] at hr
    cases u with
    | nil => exact absurd (leastLength_le hsecret.keep) (Nat.not_le_of_lt hr.2)
    | cons => rfl

theorem atQuote_of_rewrites (hr : isRegular r = true) (h : Rewrites r t t') (ht : AtQuote t) :
    AtQuote t' := by
  intro x hx
  rw [head?_of_rewrites hr h] at hx
  exact ht x hx

theorem isRegular_assignmentRule : isRegular assignmentRule = true := by decide

/-- What follows a secret of the rule for assignments begins with a quotation mark. -/
theorem IsSecret.atQuote {u v s : Text} (h : IsSecret assignmentRule u v s) : AtQuote s := by
  obtain ⟨offset, hfirst⟩ := h.first
  have hlast : (places .notQuote 1 offset (v ++ s)).getLast? = some ⟨offset + v.length, s⟩ := by
    rw [← List.head?_reverse]
    exact hfirst
  intro x hx
  rw [has_quote, has_eq_false_of_getLast?_places hlast x hx]
  rfl

/-- What is to be blotted out does not begin with a quotation mark. -/
theorem not_atQuote_of_drop {v s : Text} (hv : assignmentRule.drop.Accepts v) :
    ¬ AtQuote (v ++ s) := by
  obtain ⟨hlength, hnotQuote⟩ := hv
  cases v with
  | nil => cases hlength
  | cons x v =>
    intro hquote
    have hx := hquote x rfl
    rw [has_quote, hnotQuote x List.mem_cons_self] at hx
    cases hx

/-- Up to the first quotation mark nothing is blotted out, if nothing is quoted there. -/
theorem exists_of_rewrites_unquoted (h : Rewrites assignmentRule t t') {front rest : Text}
    {q : CodePoint} (ht : t = front ++ q :: rest) (hfront : Unquoted front)
    (hq : CharClass.quote.has q = true) (hrest : AtQuote rest) :
    ∃ after, t' = front ++ q :: after ∧ AtQuote after := by
  induction h generalizing front with
  | done => simp at ht
  | @copied x t t' _ hrewrites ih =>
    cases front with
    | nil =>
      obtain ⟨rfl, rfl⟩ := List.cons.inj ht
      exact ⟨t', rfl, atQuote_of_rewrites isRegular_assignmentRule hrewrites hrest⟩
    | cons y front =>
      obtain ⟨rfl, htail⟩ := List.cons.inj ht
      obtain ⟨after, rfl, hafter⟩ := ih htail (List.forall_mem_cons.mp hfront).2
      exact ⟨after, rfl, hafter⟩
  | blotted hsecret _ _ =>
    obtain ⟨front', q', rfl, hfront', hq'⟩ := exists_of_accepts_assignment hsecret.keep
    rw [List.append_assoc, List.singleton_append] at ht
    obtain ⟨-, rfl⟩ := eq_of_unquoted hfront hfront' hq hq' ht.symm
    exact absurd hrest (not_atQuote_of_drop hsecret.drop)

/-- **The rule for assignments leaves nothing that is assigned to a credential.** -/
theorem closed_of_rewrites (h : Rewrites assignmentRule t t') (hw : assignment.Accepts w)
    {before after : Text} (ht' : t' = before ++ w ++ after) : Closed after := by
  have hopening : 91 ∉ w := notMem_of_excludes (by decide) hw
  have hclosing : 93 ∉ w := notMem_of_excludes (by decide) hw
  obtain ⟨front, q, rfl, hfront, hq⟩ := exists_of_accepts_assignment hw
  induction h generalizing before with
  | done => simp at ht'
  | @copied x t t' hbegins hrewrites ih =>
    cases before with
    | nil =>
      -- The assignment stood there before the rule, and the rule has found nothing behind it.
      obtain ⟨rest, hrest⟩ : front ++ [q] <+: x :: t :=
        prefix_of_rewrites hopening (.copied hbegins hrewrites) ⟨after, ht'.symm⟩
      have hquote : AtQuote rest := by
        intro y hy
        by_contra hnot
        rw [has_quote, Bool.not_eq_true, Bool.not_eq_false'] at hnot
        cases rest with
        | nil => cases hy
        | cons z rest =>
          obtain rfl := Option.some.inj hy
          exact hbegins ⟨front ++ [q], [z], rest, hrest.symm, hw, le_rfl, by simpa using hnot⟩
      rw [List.append_assoc] at hrest
      obtain ⟨after', hafter', hclosed⟩ := exists_of_rewrites_unquoted
        (.copied hbegins hrewrites) hrest.symm hfront hq hquote
      rw [List.nil_append, List.append_assoc] at ht'
      obtain ⟨-, rfl⟩ := eq_of_unquoted hfront hfront hq hq (ht'.symm.trans hafter')
      exact .inl hclosed
    | cons y before => exact ih (List.cons.inj ht').2
  | @blotted u v s s' hsecret hrewrites ih =>
    rw [mark_append] at ht'
    rcases split_of_notMem hopening ht'.symm with ⟨z, hu, rfl⟩ | ⟨b, rfl, hb⟩
    · -- The assignment lies in what the rule keeps, so it is the end of it.
      obtain ⟨front', q', rfl, hfront', -⟩ := exists_of_accepts_assignment hsecret.keep
      rcases List.eq_nil_or_concat' z with rfl | ⟨z, c, rfl⟩
      · exact .inr ⟨s', rfl, atQuote_of_rewrites isRegular_assignmentRule hrewrites hsecret.atQuote⟩
      · rw [← List.append_assoc] at hu
        obtain ⟨rfl, -⟩ := List.append_inj' hu rfl
        have hquote := hfront' q (by simp)
        rw [hquote] at hq
        cases hq
    · rcases split_of_notMem hclosing hb.symm with ⟨z, hword, -⟩ | ⟨b, -, hs'⟩
      · have hword' : Unquoted ("REDACTED" : Text) := by
          rw [Unquoted]
          decide
        have hquote := hword' q (by rw [hword]; simp)
        rw [hquote] at hq
        cases hq
      · exact ih hs'

/-! ## 7. The log -/

/-- **No secret survives redaction.** -/
theorem redact_clears (t : Text) :
    (∀ p ∈ secretShapes, ∀ w, p.Accepts w → ¬ w <:+: redact t) ∧
      ∀ before w after, redact t = before ++ w ++ after → assignment.Accepts w → Closed after := by
  have hregular : ∀ r ∈ rules, isRegular r = true := by decide
  constructor
  · intro p hp w hw
    obtain ⟨r, hr, hcovers⟩ := exists_covers hp
    exact hcovers.not_infix_foldl hregular hr hw t
  · intro before w after h hw
    have hlast : redact t = apply ((rules.take 5).foldl apply t) assignmentRule := rfl
    rw [hlast] at h
    exact closed_of_rewrites (rewrites_apply isRegular_assignmentRule _) hw h

theorem redact_clears_of_password :
    redact "password = 'hunter2'" = "password = '[REDACTED]'" ∧ Closed "[REDACTED]'" :=
  ⟨by decide +kernel, (redact_clears "password = 'hunter2'").2 [] "password = '" "[REDACTED]'"
    (by decide +kernel) (accepts_of_mem_ends_nil (by decide +kernel))⟩

end Redaction
end ThreatScan
