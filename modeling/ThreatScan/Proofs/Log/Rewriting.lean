/-
# What a rule leaves alone

A rule copies a stretch of a text if it starts nothing there (`exists_of_dead`), and it leaves the
whole text if it starts nothing at all (`eq_of_dead`).  It writes no code points of its own but
those of the mark (`mem_or_mem_of_rewrites`), and a code point that stands in no secret keeps its
place among the others of its kind (`filter_of_rewrites`).

The rules for tokens take no brackets, so for them a mark is a stretch of this sort: what one of
these rules has blotted out is no part of a secret that a later one finds (`exists_of_mark`).
-/
import ThreatScan.Proofs.Log.Redaction

namespace ThreatScan
namespace Redaction

open Pattern

variable {r : RedactionRule} {front t t' : Text} {x : CodePoint}

/-! ## 1. Where a rule starts nothing -/

/-- A text that a rule begins with starts with a code point that its first part can start with. -/
theorem Begins.canStart (hr : isRegular r = true) (h : Begins r (x :: t)) :
    r.keep.canStart x = true := by
  simp only [isRegular, Bool.and_eq_true] at hr
  obtain ⟨u, v, s, ht, hu, -⟩ := h
  by_contra hstart
  have hends : (⟨u.length, v ++ s⟩ : Cursor) ∈ r.keep.ends ⟨0, x :: t⟩ :=
    mem_ends_of_accepts hr.1.1 ⟨ht, (Nat.zero_add _).symm⟩ hu
  have hrun := run_eq_none_of_canStart t 0 some (by simpa using hstart)
  rw [run_some, List.head?_eq_none_iff] at hrun
  rw [hrun] at hends
  cases hends

/-- **What starts nothing is copied.** -/
theorem exists_of_dead (hdead : ∀ z, z ≠ [] → z <:+ front → ¬ Begins r (z ++ t))
    (h : Rewrites r (front ++ t) t') : ∃ s, t' = front ++ s ∧ Rewrites r t s := by
  induction front generalizing t' with
  | nil => exact ⟨t', rfl, h⟩
  | cons x front ih =>
    have hhere := hdead (x :: front) (List.cons_ne_nil x front) List.suffix_rfl
    generalize heq : x :: front ++ t = whole at h
    cases h with
    | done => cases heq
    | copied _ hrest =>
      obtain ⟨rfl, rfl⟩ := List.cons.inj heq
      obtain ⟨s, rfl, hs⟩ :=
        ih (fun z hz hsuffix => hdead z hz (hsuffix.trans (List.suffix_cons x front))) hrest
      exact ⟨s, rfl, hs⟩
    | blotted hsecret _ => exact absurd ⟨_, _, _, heq, hsecret.keep, hsecret.drop⟩ hhere

/-- A stretch without a code point that the rule can start with is copied. -/
theorem exists_of_canStart (hr : isRegular r = true)
    (hfront : ∀ x ∈ front, r.keep.canStart x = false) (h : Rewrites r (front ++ t) t') :
    ∃ s, t' = front ++ s ∧ Rewrites r t s := by
  refine exists_of_dead ?_ h
  intro z hz hsuffix hbegins
  cases z with
  | nil => exact hz rfl
  | cons x z =>
    have hstart := hbegins.canStart hr
    rw [hfront x (hsuffix.subset List.mem_cons_self)] at hstart
    cases hstart

theorem eq_nil_of_rewrites (hr : isRegular r = true) (h : Rewrites r [] t') : t' = [] :=
  List.head?_eq_none_iff.mp (head?_of_rewrites hr h)

/-- **A rule leaves a text where it starts nothing.** -/
theorem eq_of_dead (hr : isRegular r = true) (hdead : ∀ z, z <:+ t → ¬ Begins r z)
    (h : Rewrites r t t') : t' = t := by
  rw [← List.append_nil t] at h
  obtain ⟨s, rfl, hs⟩ := exists_of_dead (fun z _ hz => by simpa using hdead z hz) h
  rw [eq_nil_of_rewrites hr hs, List.append_nil]

/-! ## 2. What a rule writes -/

/-- A rule writes what was there, and the mark. -/
theorem mem_or_mem_of_rewrites (h : Rewrites r t t') (hx : x ∈ t') : x ∈ t ∨ x ∈ mark := by
  induction h with
  | done => exact .inl hx
  | copied _ _ ih =>
    rcases List.mem_cons.mp hx with rfl | hx
    · exact .inl List.mem_cons_self
    · exact (ih hx).imp_left (List.mem_cons_of_mem _)
  | blotted _ _ ih =>
    simp only [List.mem_append] at hx ⊢
    rcases hx with hx | hx | hx
    · exact .inl (.inl hx)
    · exact .inr hx
    · exact (ih hx).imp_left fun hs => .inr (.inr hs)

/-- **Code points that are never blotted out stay**, in their order. -/
theorem filter_of_rewrites {p : CodePoint → Bool} (hmark : mark.filter p = [])
    (hdrop : ∀ v, r.drop.Accepts v → v.filter p = []) (h : Rewrites r t t') :
    t'.filter p = t.filter p := by
  induction h with
  | done => rfl
  | copied _ _ ih => rw [List.filter_cons, List.filter_cons, ih]
  | blotted hsecret _ ih =>
    simp only [List.filter_append, hmark, hdrop _ hsecret.drop, List.nil_append, ih]

/-! ## 3. How far a secret goes -/

/-- Up to the first separator texts agree. -/
theorem eq_of_notMem {a b y z : Text} (ha : x ∉ a) (hb : x ∉ b) (h : a ++ x :: y = b ++ x :: z) :
    a = b ∧ y = z := by
  obtain ⟨c, rfl⟩ := prefix_of_notMem ha (⟨_, h⟩ : a <+: b ++ x :: z)
  rw [List.append_assoc] at h
  cases c with
  | nil => exact ⟨(List.append_nil a).symm, (List.cons.inj (List.append_cancel_left h)).2⟩
  | cons c d =>
    obtain ⟨rfl, -⟩ := List.cons.inj (List.append_cancel_left h)
    exact absurd (by simp) hb

/-- Where the class ends the farthest place is. -/
theorem getLast?_places {k : CharClass} {least : ℕ} {v s : Text} (offset : ℕ)
    (hv : ∀ x ∈ v, k.has x = true) (hleast : least ≤ v.length)
    (hs : ∀ x ∈ s.head?, k.has x = false) :
    (places k least offset (v ++ s)).getLast? = some ⟨offset + v.length, s⟩ := by
  induction v generalizing least offset with
  | nil =>
    obtain rfl := Nat.le_zero.mp hleast
    cases s with
    | nil => rfl
    | cons x s =>
      rw [List.nil_append, places, if_pos rfl, if_neg (by simp [hs x rfl])]
      rfl
  | cons x v ih =>
    obtain ⟨hx, hv⟩ := List.forall_mem_cons.mp hv
    rw [List.length_cons] at hleast
    rw [List.cons_append, places, if_pos hx, List.getLast?_append,
      ih (offset + 1) hv (by omega), Option.some_or, List.length_cons, Nat.add_assoc,
      Nat.add_comm 1]

variable {k : CharClass} {least : ℕ} {u v s : Text}

/-- **A secret of a rule that blots out a run goes on** as long as the run does. -/
theorem isSecret_iff_of_many (hdrop : r.drop = many k least false) :
    IsSecret r u v s ↔
      r.keep.Accepts u ∧ r.drop.Accepts v ∧ ∀ x ∈ s.head?, k.has x = false := by
  constructor
  · rintro ⟨hkeep, hv, offset, hfirst⟩
    rw [hdrop] at hfirst
    have hlast : (places k least offset (v ++ s)).getLast? = some ⟨offset + v.length, s⟩ := by
      rw [← List.head?_reverse]
      exact hfirst
    exact ⟨hkeep, hv, has_eq_false_of_getLast?_places hlast⟩
  · rintro ⟨hkeep, hv, hs⟩
    refine ⟨hkeep, hv, 0, ?_⟩
    rw [hdrop] at hv ⊢
    show (places k least 0 (v ++ s)).reverse.head? = _
    rw [List.head?_reverse]
    exact getLast?_places 0 hv.2 hv.1 hs

/-- A secret of a rule that blots out a fixed number of code points is the same in any text. -/
theorem isSecret_iff_of_each {ks : List CharClass} (hdrop : r.drop = each ks) :
    IsSecret r u v s ↔ r.keep.Accepts u ∧ r.drop.Accepts v := by
  refine ⟨fun h => ⟨h.keep, h.drop⟩, ?_⟩
  rintro ⟨hkeep, hv⟩
  refine ⟨hkeep, hv, 0, ?_⟩
  rw [hdrop] at hv ⊢
  have hmem : (⟨0 + v.length, s⟩ : Cursor) ∈ (each ks).ends ⟨0, v ++ s⟩ :=
    mem_ends_of_accepts rfl ⟨rfl, rfl⟩ hv
  rw [ends, Option.mem_toList] at hmem
  rw [ends, Option.mem_def.mp hmem]
  rfl

/-! ## 4. Rules that take no brackets -/

/-- No secret of the rule has a bracket, and each is longer than the word in the mark. -/
def skipsMarks (r : RedactionRule) : Bool :=
  isRegular r && r.keep.excludes 91 && r.keep.excludes 93 && r.drop.excludes 91 &&
    r.drop.excludes 93 && decide (8 < r.keep.leastLength + r.drop.leastLength)

theorem isRegular_of_skipsMarks (hr : skipsMarks r = true) : isRegular r = true := by
  simp only [skipsMarks, Bool.and_eq_true] at hr
  exact hr.1.1.1.1.1

/-- A secret of such a rule is no part of a mark. -/
theorem unmarked_of_skipsMarks (hr : skipsMarks r = true) {u v : Text} (hu : r.keep.Accepts u)
    (hv : r.drop.Accepts v) : Unmarked (u ++ v) := by
  simp only [skipsMarks, Bool.and_eq_true, decide_eq_true_eq] at hr
  obtain ⟨⟨⟨⟨⟨-, hopening⟩, hclosing⟩, hopening'⟩, hclosing'⟩, hlength⟩ := hr
  constructor
  · exact List.mem_append.not.mpr
      (not_or.mpr ⟨notMem_of_excludes hopening hu, notMem_of_excludes hopening' hv⟩)
  · exact List.mem_append.not.mpr
      (not_or.mpr ⟨notMem_of_excludes hclosing hu, notMem_of_excludes hclosing' hv⟩)
  · have hle := leastLength_le hu
    have hle' := leastLength_le hv
    rw [List.length_append]
    omega

/-- **Nothing starts in a mark.** -/
theorem not_begins_of_suffix_mark (hr : skipsMarks r = true) {z : Text} (hz : z ≠ [])
    (hsuffix : z <:+ mark) (s : Text) : ¬ Begins r (z ++ s) := by
  rintro ⟨u, v, s', heq, hu, hv⟩
  have hsecret := unmarked_of_skipsMarks hr hu hv
  rw [← List.append_assoc] at heq
  have hstart : u ++ v <+: z ++ s := ⟨s', heq.symm⟩
  have hmark : mark = 91 :: (("REDACTED" : Text) ++ [93]) := rfl
  rcases List.suffix_cons_iff.mp (hmark ▸ hsuffix) with rfl | hsuffix
  · have hnil := List.prefix_nil.mp (prefix_of_notMem (x := []) hsecret.opening hstart)
    rw [hnil] at hsecret
    exact absurd hsecret.length (by simp)
  · obtain ⟨z, rfl⟩ : ∃ b, z = b ++ [93] := by
      obtain ⟨b, c, rfl⟩ := (List.eq_nil_or_concat' z).resolve_left hz
      obtain ⟨a, ha⟩ := hsuffix
      rw [← List.append_assoc] at ha
      obtain ⟨-, hc⟩ := List.append_inj' ha rfl
      exact ⟨b, by rw [hc]⟩
    rw [List.append_assoc] at hstart
    have hinside := prefix_of_notMem hsecret.closing hstart
    have hword : z.length ≤ ("REDACTED" : Text).length := by
      have hle := hsuffix.length_le
      rw [List.length_append, List.length_append] at hle
      omega
    exact absurd hsecret.length (Nat.not_lt_of_le (hinside.length_le.trans hword))

/-- **A mark stays**, and the rule goes on behind it. -/
theorem exists_of_mark (hr : skipsMarks r = true) (h : Rewrites r (mark ++ t) t') :
    ∃ s, t' = mark ++ s ∧ Rewrites r t s :=
  exists_of_dead (fun _ hz hsuffix => not_begins_of_suffix_mark hr hz hsuffix t) h

/-- Some marks, one behind the other. -/
def marks (n : ℕ) : Text := (List.replicate n mark).flatten

@[simp] theorem marks_zero : marks 0 = [] := rfl

theorem marks_succ (n : ℕ) : marks (n + 1) = mark ++ marks n := by
  rw [marks, List.replicate_succ, List.flatten_cons, marks]

theorem eq_marks_of_rewrites (hr : skipsMarks r = true) {n : ℕ} (h : Rewrites r (marks n) t') :
    t' = marks n := by
  induction n generalizing t' with
  | zero => exact eq_nil_of_rewrites (isRegular_of_skipsMarks hr) h
  | succ n ih =>
    rw [marks_succ] at h
    obtain ⟨s, rfl, hs⟩ := exists_of_mark hr h
    rw [ih hs, marks_succ]

end Redaction
end ThreatScan
