/-
# Texts with other gaps

Two texts are respaced if they have the same code points that are no blanks, and gaps at the same
places, whatever the gaps are made of.  A loose pattern allows any blanks, or none, where it allows
a gap at all, so it occurs in a text if it does in a respaced one (`count_pos_of_respaced`).

A text with a line feed on each side is a respacing of its stripped lines, one on each line
(`Respaced.strippedLines`).
-/
import ThreatScan.Proofs.Pattern.Margin

namespace ThreatScan

open Text (IsBlank isBlank newline strippedLines trim)

/-! ## 1. Respacing -/

/-- The texts differ only in what their gaps are made of. -/
inductive Respaced : Text → Text → Prop
  | nil : Respaced [] []
  | solid {x : CodePoint} {t t' : Text} :
    isBlank x = false → Respaced t t' → Respaced (x :: t) (x :: t')
  | gap {b b' t t' : Text} :
    b ≠ [] → b' ≠ [] → IsBlank b → IsBlank b' → Respaced t t' → Respaced (b ++ t) (b' ++ t')

namespace Respaced

variable {b c c' s s' t t' w : Text} {x y : CodePoint}

theorem refl (t : Text) : Respaced t t := by
  induction t with
  | nil => exact .nil
  | cons x t ih =>
    cases hx : isBlank x with
    | false => exact .solid hx ih
    | true =>
      have hblank : IsBlank [x] := by simpa [IsBlank] using hx
      exact .gap (List.cons_ne_nil x []) (List.cons_ne_nil x []) hblank hblank ih

theorem symm (h : Respaced t t') : Respaced t' t := by
  induction h with
  | nil => exact .nil
  | solid hx _ ih => exact .solid hx ih
  | gap hne hne' hb hb' _ ih => exact .gap hne' hne hb' hb ih

theorem append (h : Respaced t t') (h' : Respaced s s') : Respaced (t ++ s) (t' ++ s') := by
  induction h with
  | nil => exact h'
  | solid hx _ ih => exact .solid hx ih
  | gap hne hne' hb hb' _ ih =>
    rw [List.append_assoc, List.append_assoc]
    exact .gap hne hne' hb hb' ih

/-- A text that begins with no blank is respaced behind its first code point. -/
theorem exists_of_solid (hx : isBlank x = false) (h : Respaced (x :: t) s) :
    ∃ t', s = x :: t' ∧ Respaced t t' := by
  generalize ht : x :: t = r at h
  cases h with
  | nil => cases ht
  | solid _ h =>
    obtain ⟨rfl, rfl⟩ := List.cons.inj ht
    exact ⟨_, rfl, h⟩
  | @gap b _ _ _ hne _ hb _ _ =>
    cases b with
    | nil => exact absurd rfl hne
    | cons y b =>
      obtain ⟨rfl, -⟩ := List.cons.inj ht
      rw [hb x List.mem_cons_self] at hx
      cases hx

/-- A gap may be longer. -/
theorem pad (hx : isBlank x = true) (hb : IsBlank b) (h : Respaced (x :: t) s) :
    Respaced (b ++ x :: t) s := by
  generalize ht : x :: t = r at h
  cases h with
  | nil => cases ht
  | solid hsolid _ =>
    obtain ⟨rfl, -⟩ := List.cons.inj ht
    rw [hx] at hsolid
    cases hsolid
  | gap hne hne' hb₁ hb' h =>
    rw [← List.append_assoc]
    exact .gap (List.append_ne_nil_of_right_ne_nil b hne) hne'
      (List.forall_mem_append.mpr ⟨hb, hb₁⟩) hb' h

/-- **Every cut through a text has one through the respaced text**, and blanks stay blanks. -/
theorem exists_append (h : Respaced (w ++ t) s) :
    ∃ w' t', s = w' ++ t' ∧ (IsBlank w → IsBlank w') ∧ Respaced t t' := by
  generalize hr : w ++ t = r at h
  induction h generalizing w t with
  | nil =>
    obtain ⟨rfl, rfl⟩ := List.append_eq_nil_iff.mp hr
    exact ⟨[], [], rfl, id, .nil⟩
  | @solid x t₁ t₁' hx h ih =>
    cases w with
    | nil =>
      obtain rfl : t = x :: t₁ := hr
      exact ⟨[], x :: t₁', rfl, id, .solid hx h⟩
    | cons y w =>
      obtain ⟨rfl, htail⟩ := List.cons.inj hr
      obtain ⟨w', t', rfl, -, h'⟩ := ih htail
      refine ⟨y :: w', t', rfl, ?_, h'⟩
      intro hw
      rw [hw y List.mem_cons_self] at hx
      cases hx
  | @gap b b' t₁ t₁' hne hne' hb hb' h ih =>
    rcases List.append_eq_append_iff.mp hr with ⟨a, hba, hta⟩ | ⟨a, rfl, rfl⟩
    · -- The cut goes through the gap: it is put at one of the ends of the other gap.
      rcases eq_or_ne a [] with rfl | ha
      · exact ⟨b', t₁', rfl, fun _ => hb', hta ▸ h⟩
      · have hablank : IsBlank a := fun x hx => hb x (hba ▸ List.mem_append_right w hx)
        exact ⟨[], b' ++ t₁', rfl, fun _ => List.forall_mem_nil _, hta ▸ .gap ha hne' hablank hb' h⟩
    · obtain ⟨w', t', rfl, hblank, h'⟩ := ih rfl
      refine ⟨b' ++ w', t', (List.append_assoc ..).symm, ?_, h'⟩
      intro hw
      exact List.forall_mem_append.mpr ⟨hb', hblank (List.forall_mem_append.mp hw).2⟩

end Respaced

namespace Pattern

variable {p : Pattern} {t t' w s : Text}

/-! ## 2. Loose patterns -/

/-- The pattern takes blanks only where it takes any number of them. -/
def isLoose : Pattern → Bool
  | .each ks => ks.all CharClass.isSolid
  | .atStart => false
  | .seq p q => p.isLoose && q.isLoose
  | .alt p q => p.isLoose && q.isLoose
  | .many k least _ => decide (k = .blank ∧ least = 0)
  | .commit _ => false

theorem isPlain_of_isLoose (hp : p.isLoose = true) : p.isPlain = true := by
  induction p with
  | each ks => rfl
  | atStart => cases hp
  | seq p q hp' hq' =>
    rw [isLoose, Bool.and_eq_true] at hp
    rw [isPlain, hp' hp.1, hq' hp.2, Bool.true_and]
  | alt p q hp' hq' =>
    rw [isLoose, Bool.and_eq_true] at hp
    rw [isPlain, hp' hp.1, hq' hp.2, Bool.true_and]
  | many => rfl
  | commit => cases hp

/-- **What a loose pattern takes, it takes from a respaced text**, too. -/
theorem exists_accepts_of_respaced (hp : p.isLoose = true) (hw : p.Accepts w)
    (h : Respaced (w ++ t) s) : ∃ w' t', s = w' ++ t' ∧ p.Accepts w' ∧ Respaced t t' := by
  induction p generalizing w t s with
  | each ks =>
    induction ks generalizing w s with
    | nil =>
      obtain rfl := List.forall₂_nil_left_iff.mp hw
      exact ⟨[], s, rfl, .nil, h⟩
    | cons k ks ih =>
      rw [isLoose, List.all_cons, Bool.and_eq_true] at hp
      obtain ⟨x, w, hx, hrest, rfl⟩ := List.forall₂_cons_left_iff.mp hw
      obtain ⟨s, rfl, htail⟩ :=
        Respaced.exists_of_solid (CharClass.isBlank_eq_false_of_isSolid hp.1 hx) h
      obtain ⟨w', t', rfl, hw', h'⟩ := ih hp.2 hrest htail
      exact ⟨x :: w', t', rfl, .cons hx hw', h'⟩
  | atStart => cases hp
  | seq p q hp' hq' =>
    rw [isLoose, Bool.and_eq_true] at hp
    obtain ⟨u, v, rfl, hu, hv⟩ := hw
    rw [List.append_assoc] at h
    obtain ⟨u', s, rfl, hu', h⟩ := hp' hp.1 hu h
    obtain ⟨v', t', rfl, hv', h⟩ := hq' hp.2 hv h
    exact ⟨u' ++ v', t', (List.append_assoc ..).symm, ⟨u', v', rfl, hu', hv'⟩, h⟩
  | alt p q hp' hq' =>
    rw [isLoose, Bool.and_eq_true] at hp
    rcases hw with hw | hw
    · obtain ⟨w', t', rfl, hw', h⟩ := hp' hp.1 hw h
      exact ⟨w', t', rfl, .inl hw', h⟩
    · obtain ⟨w', t', rfl, hw', h⟩ := hq' hp.2 hw h
      exact ⟨w', t', rfl, .inr hw', h⟩
  | many k least isLazy =>
    obtain ⟨rfl, rfl⟩ := of_decide_eq_true hp
    obtain ⟨w', t', rfl, hblank, h⟩ := h.exists_append
    exact ⟨w', t', rfl, ⟨Nat.zero_le _, hblank hw.2⟩, h⟩
  | commit => cases hp

/-- A plain pattern occurs where a part of the text is one that it takes. -/
theorem count_pos_iff_of_isPlain (hp : p.isPlain = true) :
    0 < p.count t ↔ ∃ w, p.Accepts w ∧ w <:+: t := by
  rw [count_pos_iff]
  constructor
  · rintro ⟨n, -, hends⟩
    obtain ⟨d, hd⟩ := List.exists_mem_of_ne_nil _ hends
    obtain ⟨w, hw, haccepts⟩ := (mem_ends_iff hp).mp hd
    refine ⟨w, haccepts, t.take n, d.rest, ?_⟩
    have hrest : t.drop n = w ++ d.rest := hw.rest
    rw [List.append_assoc, ← hrest, List.take_append_drop]
  · rintro ⟨w, haccepts, a, z, rfl⟩
    have hreads : ((⟨0, a ++ w ++ z⟩ : Cursor).advance a.length).Reads w
        ⟨0 + a.length + w.length, z⟩ := ⟨by simp [Cursor.advance], rfl⟩
    exact ⟨a.length, by simp, List.ne_nil_of_mem ((mem_ends_iff hp).mpr ⟨w, hreads, haccepts⟩)⟩

/-- **A loose pattern occurs in a respaced text**, too. -/
theorem count_pos_of_respaced (hp : p.isLoose = true) (h : Respaced t t') (hpos : 0 < p.count t) :
    0 < p.count t' := by
  have hplain := isPlain_of_isLoose hp
  obtain ⟨w, haccepts, a, z, rfl⟩ := (count_pos_iff_of_isPlain hplain).mp hpos
  rw [List.append_assoc] at h
  obtain ⟨a', s, rfl, -, h⟩ := h.exists_append
  obtain ⟨w', z', rfl, haccepts', -⟩ := exists_accepts_of_respaced hp haccepts h
  refine (count_pos_iff_of_isPlain hplain).mpr ⟨w', haccepts', a', z', ?_⟩
  rw [List.append_assoc]

end Pattern

/-! ## 3. Stripped lines -/

namespace Respaced

/-- One line for each of the texts, in front of another text. -/
def stacked (ls : List Text) (t : Text) : Text := ls.flatMap (· ++ [newline]) ++ t

theorem stacked_append (ls ls' : List Text) (t : Text) :
    stacked (ls ++ ls') t = stacked ls (stacked ls' t) := by
  rw [stacked, stacked, stacked, List.flatMap_append, List.append_assoc]

/-- A line behind a line feed is a respacing of what is left of it. -/
theorem line {l : Text} (hl : newline ∉ l) (h : Respaced (newline :: s) (newline :: s')) :
    Respaced (newline :: (l ++ newline :: s)) (newline :: stacked (strippedLines l) s') := by
  have hfeed : isBlank newline = true := rfl
  by_cases hblank : IsBlank l
  · rw [Text.strippedLines_of_blank hl hblank]
    exact h.pad hfeed (List.forall_mem_cons.mpr ⟨hfeed, hblank⟩)
  · obtain ⟨b, b', hl', hb, hb'⟩ := Text.exists_trim l
    have hleft : newline :: (l ++ newline :: s) =
        (newline :: b) ++ (trim l ++ (b' ++ newline :: s)) := by
      conv_lhs => rw [hl']
      simp
    have hright : newline :: stacked (Text.strippedLines l) s' =
        [newline] ++ (trim l ++ newline :: s') := by
      simp [Text.strippedLines_of_not_blank hl hblank, stacked]
    rw [hleft, hright]
    exact .gap (List.cons_ne_nil _ _) (List.cons_ne_nil _ _)
      (List.forall_mem_cons.mpr ⟨hfeed, hb⟩) (List.forall_mem_singleton.mpr hfeed)
      ((refl (trim l)).append (h.pad hfeed hb'))

/-- **Between two line feeds a text is a respacing of its stripped lines.** -/
theorem strippedLines (t : Text) :
    Respaced (newline :: (t ++ [newline])) (newline :: stacked (strippedLines t) []) := by
  induction t using Text.lines_induction with
  | hline l hl => exact line hl (refl [newline])
  | hcons l t hl ih =>
    rw [Text.strippedLines_append, stacked_append, List.append_assoc, List.cons_append]
    exact line hl ih

end Respaced

namespace Pattern

variable {p : Pattern}

/-- A loose and framed pattern occurs in the stripped lines if it occurs in the text. -/
theorem count_pos_iff_stacked (hp : p.isLoose = true) (hframed : p.IsFramed) (t : Text) :
    0 < p.count t ↔ 0 < p.count (newline :: Respaced.stacked (strippedLines t) []) := by
  have hfeed : IsBlank [newline] := List.forall_mem_singleton.mpr rfl
  have hmargins : p.count (newline :: (t ++ [newline])) = p.count t :=
    hframed.count_margins hfeed hfeed t
  rw [← hmargins]
  have hrespaced := Respaced.strippedLines t
  exact ⟨count_pos_of_respaced hp hrespaced, count_pos_of_respaced hp hrespaced.symm⟩

end Pattern
end ThreatScan
