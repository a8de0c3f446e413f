/-
# A bearer token

The rule for bearer tokens keeps ten characters of a token and blots out all others, however long
the token is.  Four rules for other tokens come before it, and their shapes may stand inside of a
bearer token.  What they blot out is covered, but the mark that they write in its place is where the
rule for bearer tokens stops: the rest of the token behind a mark is out of its reach.

So no more than ten characters of a token stay exactly if the earlier rules have left nothing but
marks behind the first one (`redact_bearer`).  This is so if everything that an earlier rule takes
for a secret in the token goes on to the end of the token, in particular if no such thing stands
there.  Otherwise the end of the token is written to the log (`not_hides_redact`).
-/
import ThreatScan.Proofs.Log.Rewriting
import ThreatScan.Proofs.Text.Spelling

namespace ThreatScan
namespace Redaction

open Pattern

/-! ## 1. Tokens -/

/-- What stands in front of a token. -/
def bearer : Text := "Bearer "

/-- The rule for bearer tokens. -/
def bearerRule : RedactionRule :=
  ⟨sequence [exact "Bearer", someOf .blank, times 10 tokenChar], anyOf tokenChar⟩

/-- The rules that come before it. -/
def earlierRules : List RedactionRule := rules.take 4

/-- The text consists of the characters of a token. -/
def IsToken (w : Text) : Prop := ∀ x ∈ w, tokenChar.has x = true

instance (w : Text) : Decidable (IsToken w) := inferInstanceAs (Decidable (∀ x ∈ w, _))

/-- The text shows ten characters of the token at most, and one mark or more behind them. -/
def Hides (w t : Text) : Prop := ∃ n ≤ 10, ∃ k, 0 < k ∧ t = bearer ++ (w.take n ++ marks k)

/-- What a rule that comes before takes for a secret in the token goes on to its end. -/
def SecretsReachEnd (w : Text) : Prop :=
  ∀ r ∈ earlierRules, ∀ a u v s, w = a ++ (u ++ (v ++ s)) → IsSecret r u v s → s = []

variable {r : RedactionRule} {w t t' x y : Text}

theorem redact_eq (t : Text) :
    redact t = apply (apply (earlierRules.foldl apply t) bearerRule) assignmentRule := rfl

/-- A token has no bracket and no equals sign. -/
theorem IsToken.notMem (hw : IsToken w) : 91 ∉ w ∧ 61 ∉ w := by
  constructor <;>
  · intro hmem
    exact absurd (hw _ hmem) (by decide)

/-- A token has no blanks. -/
theorem IsToken.isBlank_eq_false (hw : IsToken w) : ∀ c ∈ w, Text.isBlank c = false :=
  fun c hc => not_blank_of_tokenChar (hw c hc)

/-! ## 2. What the earlier rules leave -/

/-- A token, or a part of it at its beginning with a mark behind it. -/
inductive Cut : Text → Text → Prop
  | whole (w : Text) : Cut w w
  | marked (x b s : Text) : Cut (x ++ b) (x ++ (mark ++ s))

theorem Cut.cons (h : Cut w t) (c : CodePoint) : Cut (c :: w) (c :: t) := by
  cases h with
  | whole => exact .whole (c :: w)
  | marked x b s => exact .marked (c :: x) b s

/-- Another rule cuts off more, if anything. -/
theorem Cut.rewrites (hr : skipsMarks r = true) (hw : 91 ∉ w) (hcut : Cut w t)
    (h : Rewrites r t t') : Cut w t' := by
  induction h generalizing w with
  | done =>
    generalize ht : ([] : Text) = t at hcut
    cases hcut with
    | whole => exact ht ▸ .whole []
    | marked x b s => cases x <;> cases ht
  | @copied c t t' hbegins hrest ih =>
    generalize ht : c :: t = t₀ at hcut
    cases hcut with
    | whole =>
      subst ht
      exact (ih (List.not_mem_of_not_mem_cons hw) (.whole t)).cons c
    | marked x b s =>
      cases x with
      | nil =>
        have hcopied : Rewrites r (mark ++ s) (c :: t') := by
          rw [List.nil_append] at ht
          rw [← ht]
          exact .copied hbegins hrest
        obtain ⟨s', hs', -⟩ := exists_of_mark hr hcopied
        rw [hs']
        exact .marked [] b s'
      | cons d x =>
        obtain ⟨rfl, rfl⟩ := List.cons.inj ht
        exact (ih (List.not_mem_of_not_mem_cons hw) (.marked x b s)).cons c
  | @blotted u v s s' hsecret hrest ih =>
    -- What the rule keeps has no bracket, so it lies in front of the first mark.
    have hu : 91 ∉ u := fun hmem => (unmarked_of_skipsMarks hr hsecret.keep hsecret.drop).opening
      (List.mem_append_left v hmem)
    obtain ⟨b, rfl⟩ : u <+: w := by
      generalize ht : u ++ (v ++ s) = t₀ at hcut
      cases hcut with
      | whole => exact ⟨v ++ s, ht⟩
      | marked x b s₀ =>
        have hstart : u <+: x ++ 91 :: (("REDACTED" : Text) ++ 93 :: s₀) := ⟨v ++ s, ht⟩
        exact (prefix_of_notMem hu hstart).trans (List.prefix_append x b)
    exact .marked u b s'

theorem skipsMarks_earlierRules : ∀ r ∈ earlierRules, skipsMarks r = true := by decide

/-- No rule that comes before starts in front of the token. -/
theorem exists_of_bearer (hr : r ∈ earlierRules) (h : Rewrites r (bearer ++ t) t') :
    ∃ s, t' = bearer ++ s ∧ Rewrites r t s := by
  have hstart : ∀ r ∈ earlierRules, ∀ x ∈ bearer, r.keep.canStart x = false := by decide
  exact exists_of_canStart (isRegular_of_skipsMarks (skipsMarks_earlierRules r hr)) (hstart r hr) h

/-- What holds of a token, and is kept by each of the earlier rules, holds of what they leave. -/
theorem exists_of_earlierRules {P : Text → Prop}
    (hstep : ∀ r ∈ earlierRules, ∀ t s, P t → Rewrites r t s → P s) (hw : P w) :
    ∃ t, earlierRules.foldl apply (bearer ++ w) = bearer ++ t ∧ P t := by
  have hrun {rs : List RedactionRule} (hrs : rs ⊆ earlierRules) {t : Text} (ht : P t) :
      ∃ s, rs.foldl apply (bearer ++ t) = bearer ++ s ∧ P s := by
    induction rs generalizing t with
    | nil => exact ⟨t, rfl, ht⟩
    | cons r rs ih =>
      obtain ⟨hr, hrs⟩ := List.cons_subset.mp hrs
      have hregular := isRegular_of_skipsMarks (skipsMarks_earlierRules r hr)
      obtain ⟨s, hs, hrewrites⟩ := exists_of_bearer hr (rewrites_apply hregular (bearer ++ t))
      rw [List.foldl_cons, hs]
      exact ih hrs (hstep r hr t s ht hrewrites)
  exact hrun (List.Subset.refl _) hw

/-! ## 3. The rule for bearer tokens -/

/-- Ten characters of what is left, and a mark for the others; with fewer than ten in front of the
first mark, nothing is blotted out. -/
def covered (x y : Text) : Text := if 10 ≤ x.length then x.take 10 ++ (mark ++ y) else x ++ y

/-- What the rule keeps in front of a text without blanks is a stretch of ten characters. -/
theorem exists_of_keep {u s : Text} (hu : bearerRule.keep.Accepts u)
    (ht : ∀ c ∈ t, Text.isBlank c = false) (h : u ++ s = bearer ++ t) :
    ∃ tok, u = bearer ++ tok ∧ tok.length = 10 ∧ IsToken tok ∧ t = tok ++ s := by
  obtain ⟨_, _, rfl, hname, hu⟩ := accepts_sequence_cons.mp hu
  obtain ⟨bl, tok, rfl, ⟨hpos, hbl⟩, htok⟩ := accepts_sequence_cons.mp hu
  obtain rfl := accepts_exact.mp hname
  obtain ⟨hlength, htok⟩ := accepts_times.mp (accepts_sequence_singleton.mp htok)
  have hrest : bl ++ (tok ++ s) = 32 :: t := by
    rw [List.append_assoc, List.append_assoc] at h
    have hsplit : ("Bearer" : Text) ++ (bl ++ (tok ++ s)) = ("Bearer" : Text) ++ (32 :: t) := h
    exact List.append_cancel_left hsplit
  cases bl with
  | nil => cases hpos
  | cons c bl =>
    obtain ⟨rfl, hblanks⟩ := List.cons.inj hrest
    cases bl with
    | nil => exact ⟨tok, rfl, hlength, htok, hblanks.symm⟩
    | cons d bl =>
      have hd := ht d (hblanks ▸ by simp)
      have hblank : Text.isBlank d = true := hbl d (by simp)
      rw [hblank] at hd
      cases hd

/-- Nothing starts where no blank follows. -/
theorem not_begins_bearer (ht : ∀ c ∈ t, Text.isBlank c = false) : ¬ Begins bearerRule t := by
  rintro ⟨u, v, s, rfl, hu, -⟩
  obtain ⟨_, _, rfl, -, hu⟩ := accepts_sequence_cons.mp hu
  obtain ⟨bl, tok, rfl, ⟨hpos, hbl⟩, -⟩ := accepts_sequence_cons.mp hu
  cases bl with
  | nil => cases hpos
  | cons c bl =>
    have hc := ht c (by simp)
    have hblank : Text.isBlank c = true := hbl c (by simp)
    rw [hblank] at hc
    cases hc

/-- A run is cut off in one way. -/
theorem eq_of_heads {k : CharClass} {s z : Text} (hx : ∀ c ∈ x, k.has c = true)
    (hz : ∀ c ∈ z, k.has c = true) (hy : ∀ c ∈ y.head?, k.has c = false)
    (hs : ∀ c ∈ s.head?, k.has c = false) (h : x ++ y = z ++ s) : x = z ∧ y = s := by
  have hrun {a b : Text} (ha : ∀ c ∈ a, k.has c = true) (hb : ∀ c ∈ b.head?, k.has c = false) :
      (a ++ b).takeWhile k.has = a := by
    rw [List.takeWhile_append_of_pos ha]
    cases b with
    | nil => simp
    | cons c b => simp [hb c rfl]
  obtain rfl : x = z := by rw [← hrun hx hy, h, hrun hz hs]
  exact ⟨rfl, List.append_cancel_left h⟩

theorem isRegular_bearerRule : isRegular bearerRule = true := by decide

/-- **The rule for bearer tokens goes as far as the first mark.** -/
theorem eq_of_rewrites_bearer (hx : IsToken x) (hy : y = [] ∨ mark <+: y)
    (hblank : ∀ c ∈ x ++ y, Text.isBlank c = false)
    (h : Rewrites bearerRule (bearer ++ (x ++ y)) t') : t' = bearer ++ covered x y := by
  have htail {t s : Text} (ht : ∀ c ∈ t, Text.isBlank c = false) (h : Rewrites bearerRule t s) :
      s = t :=
    eq_of_dead isRegular_bearerRule
      (fun z hz => not_begins_bearer fun c hc => ht c (hz.subset hc)) h
  obtain ⟨-, hblank'⟩ := List.forall_mem_append.mp hblank
  generalize heq : bearer ++ (x ++ y) = t at h
  cases h with
  | done => cases heq
  | copied hbegins hrest =>
    have hshort : ¬ 10 ≤ x.length := by
      intro hlong
      refine hbegins ⟨bearer ++ x.take 10, x.drop 10, y, ?_, ?_, Nat.zero_le _, ?_⟩
      · rw [← heq, List.append_assoc, ← List.append_assoc (x.take 10), List.take_append_drop]
      · refine accepts_sequence_cons.mpr ⟨("Bearer" : Text), 32 :: x.take 10, rfl,
          accepts_exact.mpr rfl, accepts_sequence_cons.mpr ⟨[32], x.take 10, rfl, ?_, ?_⟩⟩
        · exact ⟨le_rfl, by decide⟩
        · refine accepts_times.mpr ⟨?_, fun c hc => hx c (List.mem_of_mem_take hc)⟩
          rw [List.length_take, Nat.min_eq_left hlong]
      · exact fun c hc => hx c (List.mem_of_mem_drop hc)
    obtain ⟨rfl, rfl⟩ := List.cons.inj heq
    have hfront : ∀ c ∈ ("earer " : Text), bearerRule.keep.canStart c = false := by decide
    obtain ⟨s, rfl, hs⟩ := exists_of_canStart isRegular_bearerRule hfront hrest
    rw [covered, if_neg hshort, htail hblank hs]
    rfl
  | @blotted u v s s' hsecret hrest =>
    obtain ⟨tok, rfl, hlength, htok, hsplit⟩ := exists_of_keep hsecret.keep hblank heq.symm
    obtain ⟨-, hv, hend⟩ := (isSecret_iff_of_many rfl).mp hsecret
    have hyhead : ∀ c ∈ y.head?, tokenChar.has c = false := by
      intro c hc
      rcases hy with rfl | ⟨z, rfl⟩
      · cases hc
      · obtain rfl := Option.some.inj hc
        decide
    rw [← List.append_assoc] at hsplit
    obtain ⟨rfl, rfl⟩ := eq_of_heads hx (List.forall_mem_append.mpr ⟨htok, hv.2⟩) hyhead hend hsplit
    rw [covered, if_pos (by simp [hlength]), htail hblank' hrest, ← hlength, List.take_left,
      List.append_assoc]

/-! ## 4. What redaction leaves -/

/-- Without an equals sign nothing is assigned. -/
theorem not_begins_assignment (ht : 61 ∉ t) : ¬ Begins assignmentRule t := by
  rintro ⟨u, v, s, rfl, hu, -⟩
  obtain ⟨_, _, rfl, -, hu⟩ := accepts_sequence_cons.mp hu
  obtain ⟨_, _, rfl, -, hu⟩ := accepts_sequence_cons.mp hu
  obtain ⟨sign, _, rfl, hsign, -⟩ := accepts_sequence_cons.mp hu
  have hequals : word "=" = each [.lowerWithin [(61, 61)]] := by decide
  rw [hequals] at hsign
  obtain ⟨c, _, hc, -, rfl⟩ := List.forall₂_cons_left_iff.mp hsign
  have hlower : Text.lowerOne c = 61 := by
    simpa [CharClass.has, CharClass.covers, Nat.le_antisymm_iff, and_comm] using hc
  obtain rfl := Text.eq_of_lowerOne (by decide) hlower
  exact ht (by simp)

/-- **What redaction leaves of a token**: the part in front of the first mark is covered, and the
rest is what the earlier rules have left. -/
theorem exists_redact_bearer (hw : IsToken w) :
    ∃ x y, earlierRules.foldl apply (bearer ++ w) = bearer ++ (x ++ y) ∧
      (y = [] ∧ x = w ∨ mark <+: y ∧ x <+: w) ∧ redact (bearer ++ w) = bearer ++ covered x y := by
  have hopening : 91 ∉ w := hw.notMem.1
  obtain ⟨t, ht, hcut, hmem⟩ := exists_of_earlierRules (w := w)
    (P := fun t => Cut w t ∧ ∀ c ∈ t, c ∈ w ∨ c ∈ mark) (fun r hr t s h hrewrites => by
      refine ⟨h.1.rewrites (skipsMarks_earlierRules r hr) hopening hrewrites, ?_⟩
      intro c hc
      exact (mem_or_mem_of_rewrites hrewrites hc).elim (h.2 c) .inr)
    ⟨.whole w, fun c hc => .inl hc⟩
  obtain ⟨x, y, rfl, hxy⟩ : ∃ x y, t = x ++ y ∧ (y = [] ∧ x = w ∨ mark <+: y ∧ x <+: w) := by
    cases hcut with
    | whole => exact ⟨w, [], (List.append_nil w).symm, .inl ⟨rfl, rfl⟩⟩
    | marked x b s =>
      exact ⟨x, mark ++ s, rfl, .inr ⟨List.prefix_append _ _, List.prefix_append _ _⟩⟩
  refine ⟨x, y, ht, hxy, ?_⟩
  have hx : IsToken x := by
    rcases hxy with ⟨-, rfl⟩ | ⟨-, hfront⟩
    · exact hw
    · exact fun c hc => hw c (hfront.subset hc)
  have hblank : ∀ c ∈ x ++ y, Text.isBlank c = false := by
    have hmark : ∀ c ∈ mark, Text.isBlank c = false := by decide
    exact fun c hc => (hmem c hc).elim (hw.isBlank_eq_false c) (hmark c)
  have hequals : 61 ∉ x ++ y := by
    intro hc
    exact (hmem 61 hc).elim hw.notMem.2 (absurd · (by decide))
  have hrewrites := rewrites_apply isRegular_bearerRule (bearer ++ (x ++ y))
  have hcovered := eq_of_rewrites_bearer hx (hxy.imp And.left And.left) hblank hrewrites
  have hequals' : 61 ∉ bearer ++ covered x y := by
    intro hc
    rw [← hcovered] at hc
    rcases mem_or_mem_of_rewrites hrewrites hc with hc | hc
    · exact (List.mem_append.mp hc).elim (absurd · (by decide)) hequals
    · exact absurd hc (by decide)
  rw [redact_eq, ht, hcovered]
  refine eq_of_dead isRegular_assignmentRule ?_ (rewrites_apply isRegular_assignmentRule _)
  exact fun z hz => not_begins_assignment fun hc => hequals' (hz.subset hc)

/-- A text of a stretch without brackets and marks is one in one way. -/
theorem eq_of_marks {k : ℕ} {z : Text} (hx : 91 ∉ x) (hz : 91 ∉ z)
    (hy : y = [] ∨ mark <+: y) (h : x ++ y = z ++ marks k) : x = z ∧ y = marks k := by
  have hmark (s : Text) : mark ++ s = 91 :: (("REDACTED]" : Text) ++ s) := rfl
  cases k with
  | zero =>
    rw [marks_zero, List.append_nil] at h
    rcases hy with rfl | ⟨s, rfl⟩
    · exact ⟨by simpa using h, rfl⟩
    · exact absurd (h ▸ by simp [hmark]) hz
  | succ k =>
    rw [marks_succ, hmark] at h
    rcases hy with rfl | ⟨s, rfl⟩
    · rw [List.append_nil] at h
      exact absurd (h ▸ by simp) hx
    · rw [hmark] at h
      obtain ⟨rfl, hs⟩ := eq_of_notMem hx hz h
      rw [marks_succ, hmark, hmark, hs]
      exact ⟨rfl, rfl⟩

/-- What is covered shows ten characters and then marks exactly if there were only marks. -/
theorem hides_iff (hw : IsToken w) (hlength : 10 ≤ w.length)
    (hxy : y = [] ∧ x = w ∨ mark <+: y ∧ x <+: w) :
    Hides w (bearer ++ covered x y) ↔ ∃ n k, x ++ y = w.take n ++ marks k := by
  have hopening : 91 ∉ w := hw.notMem.1
  have htake (n : ℕ) : 91 ∉ w.take n := fun h => hopening (List.mem_of_mem_take h)
  have hfront : x <+: w := by
    rcases hxy with ⟨-, rfl⟩ | ⟨-, h⟩
    · exact List.prefix_rfl
    · exact h
  have hx : 91 ∉ x := fun h => hopening (hfront.subset h)
  have hxtake : x = w.take x.length := List.prefix_iff_eq_take.mp hfront
  have hy : y = [] ∨ mark <+: y := hxy.imp And.left And.left
  constructor
  · rintro ⟨n, -, k, hk, h⟩
    obtain ⟨k, rfl⟩ := Nat.exists_eq_succ_of_ne_zero hk.ne'
    have h := List.append_cancel_left h
    rw [covered] at h
    split at h
    case isTrue =>
      have hx' : 91 ∉ x.take 10 := fun h => hx (List.mem_of_mem_take h)
      obtain ⟨-, hmarks⟩ := eq_of_marks hx' (htake n) (.inr (List.prefix_append mark y)) h
      rw [marks_succ] at hmarks
      exact ⟨x.length, k, by rw [← hxtake, List.append_cancel_left hmarks]⟩
    case isFalse =>
      obtain ⟨-, rfl⟩ := eq_of_marks hx (htake n) hy h
      exact ⟨x.length, _, by rw [← hxtake]⟩
  · rintro ⟨n, k, h⟩
    obtain ⟨-, rfl⟩ := eq_of_marks hx (htake n) hy h
    rw [covered]
    split
    case isTrue hlong =>
      refine ⟨10, le_rfl, k + 1, Nat.succ_pos k, ?_⟩
      rw [marks_succ, hxtake, List.take_take, Nat.min_eq_left hlong]
    case isFalse hshort =>
      refine ⟨x.length, by omega, k, ?_, by rw [← hxtake]⟩
      rcases hxy with ⟨-, rfl⟩ | ⟨⟨s, hs⟩, -⟩
      · exact absurd hlength hshort
      · refine Nat.pos_of_ne_zero ?_
        rintro rfl
        cases hs

/-- A text that hides a token ends with a mark. -/
theorem Hides.getLast? (h : Hides w t) : t.getLast? = some 93 := by
  obtain ⟨n, -, k, hk, rfl⟩ := h
  obtain ⟨k, rfl⟩ := Nat.exists_eq_succ_of_ne_zero hk.ne'
  have hmarks : (marks (k + 1)).getLast? = some 93 := by
    induction k with
    | zero => rfl
    | succ k ih => rw [marks_succ, List.getLast?_append, ih (Nat.succ_pos k), Option.some_or]
  rw [List.getLast?_append, List.getLast?_append, hmarks]
  rfl

/-! ## 5. Secrets in a token -/

/-- Whether a piece is a secret of an earlier rule depends on the next code point only. -/
theorem IsSecret.of_head? (hr : r ∈ earlierRules) {u v s z : Text} (hz : z.head? = s.head?)
    (h : IsSecret r u v s) : IsSecret r u v z := by
  have hdrop : (∃ k least, r.drop = many k least false) ∨ ∃ ks, r.drop = each ks := by
    simp only [earlierRules, rules, List.take_succ_cons, List.take_zero, List.mem_cons,
      List.not_mem_nil, or_false] at hr
    rcases hr with rfl | rfl | rfl | rfl
    · exact .inl ⟨_, _, rfl⟩
    · exact .inl ⟨_, _, rfl⟩
    · exact .inr ⟨_, rfl⟩
    · exact .inl ⟨_, _, rfl⟩
  rcases hdrop with ⟨k, least, hdrop⟩ | ⟨ks, hdrop⟩
  · rw [isSecret_iff_of_many hdrop] at h ⊢
    rwa [hz]
  · rw [isSecret_iff_of_each hdrop] at h ⊢
    exact h

/-- **If all secrets in a token reach its end, a rule leaves a part of it and marks.**  The text
`x ++ marks k` is what remains of the token behind `a`, and `b` is what the marks stand for. -/
theorem exists_of_secretsReachEnd (hr : r ∈ earlierRules) (hreach : SecretsReachEnd w)
    {a b : Text} {k : ℕ} (hw : w = a ++ (x ++ b)) (hk : k = 0 → b = [])
    (h : Rewrites r (x ++ marks k) t') :
    ∃ x' b' k', t' = x' ++ marks k' ∧ x ++ b = x' ++ b' ∧ (k' = 0 → b' = []) := by
  have hskips := skipsMarks_earlierRules r hr
  generalize heq : x ++ marks k = t at h
  induction h generalizing a x with
  | done =>
    obtain ⟨rfl, hnil⟩ := List.append_eq_nil_iff.mp heq
    exact ⟨[], b, k, hnil.symm, rfl, hk⟩
  | copied hbegins hrest ih =>
    cases x with
    | nil =>
      have hcopied := Rewrites.copied hbegins hrest
      rw [← heq, List.nil_append] at hcopied
      exact ⟨[], b, k, eq_marks_of_rewrites hskips hcopied, rfl, hk⟩
    | cons c x =>
      obtain ⟨rfl, rfl⟩ := List.cons.inj heq
      obtain ⟨x', b', k', rfl, hsplit, hk'⟩ := ih (a := a ++ [c]) (by simpa using hw) rfl
      exact ⟨c :: x', b', k', rfl, congrArg (c :: ·) hsplit, hk'⟩
  | @blotted u v s s' hsecret hrest _ =>
    cases k with
    | zero =>
      rw [marks_zero, List.append_nil] at heq
      obtain rfl := hk rfl
      rw [List.append_nil, heq] at hw
      obtain rfl := hreach r hr a u v s hw hsecret
      rw [eq_nil_of_rewrites (isRegular_of_skipsMarks hskips) hrest]
      exact ⟨u, v, 1, rfl, by simp [heq], by simp⟩
    | succ k =>
      have hbracket := (unmarked_of_skipsMarks hskips hsecret.keep hsecret.drop).opening
      have hmarks : marks (k + 1) = 91 :: (("REDACTED]" : Text) ++ marks k) := marks_succ k
      obtain ⟨c, rfl⟩ : u ++ v <+: x := prefix_of_notMem hbracket
        (⟨s, by rw [List.append_assoc, ← heq, hmarks]⟩ :
          u ++ v <+: x ++ 91 :: (("REDACTED]" : Text) ++ marks k))
      have hs : s = c ++ marks (k + 1) := by
        rw [List.append_assoc, List.append_assoc] at heq
        exact (List.append_cancel_left (List.append_cancel_left heq)).symm
      subst hs
      cases c with
      | nil =>
        rw [eq_marks_of_rewrites hskips hrest, ← marks_succ]
        exact ⟨u, v ++ b, k + 2, rfl, by simp, by simp⟩
      | cons d c =>
        -- The same secret stands in the token, and does not reach its end.
        have hhead : (d :: c ++ b).head? = (d :: c ++ marks (k + 1)).head? := rfl
        have hinside := hsecret.of_head? hr hhead
        have hend := hreach r hr a u v (d :: c ++ b) (by simpa using hw) hinside
        cases hend

/-! ## 6. The log -/

/-- **When the rules together hide a token** as the rule for bearer tokens does alone. -/
theorem redact_bearer (hw : IsToken w) (hlength : 10 ≤ w.length) :
    apply (bearer ++ w) bearerRule = bearer ++ (w.take 10 ++ mark) ∧
      (Hides w (redact (bearer ++ w)) ↔
        ∃ n k, earlierRules.foldl apply (bearer ++ w) = bearer ++ (w.take n ++ marks k)) ∧
      (SecretsReachEnd w → Hides w (redact (bearer ++ w))) := by
  obtain ⟨x, y, hearlier, hxy, hredact⟩ := exists_redact_bearer hw
  have hiff : Hides w (redact (bearer ++ w)) ↔
      ∃ n k, earlierRules.foldl apply (bearer ++ w) = bearer ++ (w.take n ++ marks k) := by
    rw [hredact, hides_iff hw hlength hxy, hearlier]
    simp only [List.append_cancel_left_eq]
  refine ⟨?_, hiff, ?_⟩
  · have hblank : ∀ c ∈ w ++ [], Text.isBlank c = false := by
      rw [List.append_nil]
      exact hw.isBlank_eq_false
    have halone := rewrites_apply isRegular_bearerRule (bearer ++ w)
    rw [← List.append_nil w] at halone
    have hcovered := eq_of_rewrites_bearer hw (.inl rfl) hblank halone
    rwa [List.append_nil, covered, if_pos hlength, List.append_nil] at hcovered
  · intro hreach
    obtain ⟨t, ht, x, b, k, rfl, hsplit, -⟩ := exists_of_earlierRules (w := w)
      (P := fun t => ∃ x b k, t = x ++ marks k ∧ w = x ++ b ∧ (k = 0 → b = []))
      (fun r hr t s h hrewrites => by
        obtain ⟨x, b, k, rfl, hsplit, hk⟩ := h
        obtain ⟨x', b', k', rfl, hsplit', hk'⟩ :=
          exists_of_secretsReachEnd (a := []) hr hreach hsplit hk hrewrites
        exact ⟨x', b', k', rfl, hsplit.trans hsplit', hk'⟩)
      ⟨w, [], 0, by simp, by simp, fun _ => rfl⟩
    refine hiff.mpr ⟨x.length, k, ?_⟩
    rw [ht, hsplit, List.take_left]

/-- A token with another one at its end. -/
theorem redact_bearer_of_key :
    let w : Text := "xsk-ant-0123456789-secret"
    IsToken w ∧ 10 ≤ w.length ∧
      redact (bearer ++ w) = "Bearer xsk-ant-01[REDACTED][REDACTED]" ∧
      Hides w (redact (bearer ++ w)) := by
  intro w
  have hw : IsToken w := by decide
  have hlength : 10 ≤ w.length := by decide
  have hearlier : earlierRules.foldl apply (bearer ++ w) = bearer ++ (w.take 18 ++ marks 1) := by
    decide
  exact ⟨hw, hlength, by decide,
    (redact_bearer hw hlength).2.1.mpr ⟨18, 1, hearlier⟩⟩

/-- Behind the mark of an earlier rule the rest of a token stays. -/
theorem not_hides_redact :
    let w : Text := "sk-abcdefghij.secret"
    IsToken w ∧ 10 ≤ w.length ∧
      redact (bearer ++ w) = "Bearer sk-abcdefg[REDACTED][REDACTED].secret" ∧
      ¬ Hides w (redact (bearer ++ w)) := by
  intro w
  have hredact : redact (bearer ++ w) = "Bearer sk-abcdefg[REDACTED][REDACTED].secret" := by
    decide
  refine ⟨by decide, by decide, hredact, ?_⟩
  intro h
  have hlast := h.getLast?
  rw [hredact] at hlast
  exact absurd hlast (by decide)

end Redaction
end ThreatScan
