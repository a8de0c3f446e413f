/-
# What decodes

The bytes that decode are those that the standard calls well formed: characters one after the
other, each by a row of its table.  The table shuts out the longer forms of a character, the
surrogates and all beyond the last code point (`exists_decode_iff`).  Nothing is lost either: the
text encodes to the very bytes that it came from, and every text without a surrogate comes back
from its own (`decode_eq_ok_iff`).
-/
import ThreatScan.Proofs.Text.Utf8

namespace ThreatScan
namespace Text

/-! ## 1. The table of the standard -/

/-- A byte that goes on with a character. -/
def IsTail (b : Nat) : Prop := 0x80 ≤ b ∧ b ≤ 0xBF

/-- The bytes of one character. -/
inductive WellFormedCharacter : List Nat → Prop where
  | ascii {a : Nat} : a ≤ 0x7F → WellFormedCharacter [a]
  | two {a b : Nat} : 0xC2 ≤ a → a ≤ 0xDF → IsTail b → WellFormedCharacter [a, b]
  | threeLow {b c : Nat} : 0xA0 ≤ b → b ≤ 0xBF → IsTail c → WellFormedCharacter [0xE0, b, c]
  | three {a b c : Nat} : 0xE1 ≤ a → a ≤ 0xEC → IsTail b → IsTail c →
      WellFormedCharacter [a, b, c]
  /-- The second byte stops before the surrogates. -/
  | threeBelowSurrogates {b c : Nat} : 0x80 ≤ b → b ≤ 0x9F → IsTail c →
      WellFormedCharacter [0xED, b, c]
  | threeHigh {a b c : Nat} : 0xEE ≤ a → a ≤ 0xEF → IsTail b → IsTail c →
      WellFormedCharacter [a, b, c]
  | fourLow {b c d : Nat} : 0x90 ≤ b → b ≤ 0xBF → IsTail c → IsTail d →
      WellFormedCharacter [0xF0, b, c, d]
  | four {a b c d : Nat} : 0xF1 ≤ a → a ≤ 0xF3 → IsTail b → IsTail c → IsTail d →
      WellFormedCharacter [a, b, c, d]
  /-- The second byte stops after the last code point. -/
  | fourHigh {b c d : Nat} : 0x80 ≤ b → b ≤ 0x8F → IsTail c → IsTail d →
      WellFormedCharacter [0xF4, b, c, d]

/-- The bytes of characters one after the other. -/
inductive WellFormed : List Nat → Prop where
  | nil : WellFormed []
  | append {ch rest : List Nat} : WellFormedCharacter ch → WellFormed rest →
      WellFormed (ch ++ rest)

/-- A code point that has an encoding: one up to the last that is no surrogate. -/
def IsScalar (c : Nat) : Prop := c < 0xD800 ∨ 0xDFFF < c ∧ c < 0x110000

/-! ## 2. One character -/

section Encoding

variable {c : Nat}

theorem encodeOne_one (h : c < 0x80) : encodeOne c = [c] := by
  simp [encodeOne, h]

theorem encodeOne_two (h : 0x80 ≤ c) (h' : c < 0x800) :
    encodeOne c = [0xC0 + c / 0x40, 0x80 + c % 0x40] := by
  simp [encodeOne, h', Nat.not_lt.mpr h]

theorem encodeOne_three (h : 0x800 ≤ c) (h' : c < 0x10000) :
    encodeOne c = [0xE0 + c / 0x1000, 0x80 + c / 0x40 % 0x40, 0x80 + c % 0x40] := by
  have hlow : ¬ c < 0x80 := by omega
  simp [encodeOne, h', hlow, Nat.not_lt.mpr h]

theorem encodeOne_four (h : 0x10000 ≤ c) :
    encodeOne c = [0xF0 + c / 0x40000, 0x80 + c / 0x1000 % 0x40, 0x80 + c / 0x40 % 0x40,
      0x80 + c % 0x40] := by
  have hlow : ¬ c < 0x80 := by omega
  have hmiddle : ¬ c < 0x800 := by omega
  simp [encodeOne, hlow, hmiddle, Nat.not_lt.mpr h]

theorem isTail_low (n : Nat) : IsTail (0x80 + n % 0x40) := ⟨by omega, by omega⟩

theorem wellFormedCharacter_encodeOne (h : IsScalar c) : WellFormedCharacter (encodeOne c) := by
  unfold IsScalar at h
  by_cases hone : c < 0x80
  · rw [encodeOne_one hone]
    exact .ascii (by omega)
  by_cases htwo : c < 0x800
  · rw [encodeOne_two (by omega) htwo]
    exact .two (by omega) (by omega) (isTail_low _)
  by_cases hthree : c < 0x10000
  · rw [encodeOne_three (by omega) hthree]
    by_cases hlow : c < 0x1000
    · rw [show 0xE0 + c / 0x1000 = 0xE0 by omega]
      exact .threeLow (by omega) (by omega) (isTail_low _)
    by_cases hbelow : c < 0xD000
    · exact .three (by omega) (by omega) (isTail_low _) (isTail_low _)
    by_cases hsurrogates : c < 0xD800
    · rw [show 0xE0 + c / 0x1000 = 0xED by omega]
      exact .threeBelowSurrogates (by omega) (by omega) (isTail_low _)
    · exact .threeHigh (by omega) (by omega) (isTail_low _) (isTail_low _)
  · rw [encodeOne_four (by omega)]
    by_cases hlow : c < 0x40000
    · rw [show 0xF0 + c / 0x40000 = 0xF0 by omega]
      exact .fourLow (by omega) (by omega) (isTail_low _) (isTail_low _)
    by_cases hhigh : c < 0x100000
    · exact .four (by omega) (by omega) (isTail_low _) (isTail_low _) (isTail_low _)
    · rw [show 0xF0 + c / 0x40000 = 0xF4 by omega]
      exact .fourHigh (by omega) (by omega) (isTail_low _) (isTail_low _)

end Encoding

theorem exists_encodeOne_three {a b d : Nat} (ha : 0xE0 ≤ a) (ha' : a ≤ 0xEF) (hb : IsTail b)
    (hd : IsTail d) (hlow : a = 0xE0 → 0xA0 ≤ b) (hsurrogate : a = 0xED → b ≤ 0x9F) :
    ∃ c, IsScalar c ∧ encodeOne c = [a, b, d] := by
  obtain ⟨hb, hb'⟩ := hb
  obtain ⟨hd, hd'⟩ := hd
  refine ⟨(a - 0xE0) * 0x1000 + (b - 0x80) * 0x40 + (d - 0x80), ?_, ?_⟩
  · unfold IsScalar
    omega
  · rw [encodeOne_three (by omega) (by omega)]
    simp only [List.cons.injEq, and_true]
    omega

theorem exists_encodeOne_four {a b d f : Nat} (ha : 0xF0 ≤ a) (ha' : a ≤ 0xF4) (hb : IsTail b)
    (hd : IsTail d) (hf : IsTail f) (hlow : a = 0xF0 → 0x90 ≤ b) (hhigh : a = 0xF4 → b ≤ 0x8F) :
    ∃ c, IsScalar c ∧ encodeOne c = [a, b, d, f] := by
  obtain ⟨hb, hb'⟩ := hb
  obtain ⟨hd, hd'⟩ := hd
  obtain ⟨hf, hf'⟩ := hf
  refine ⟨(a - 0xF0) * 0x40000 + (b - 0x80) * 0x1000 + (d - 0x80) * 0x40 + (f - 0x80), ?_, ?_⟩
  · unfold IsScalar
    omega
  · rw [encodeOne_four (by omega)]
    simp only [List.cons.injEq, and_true]
    omega

/-- Every character of the table is the encoding of a code point. -/
theorem exists_encodeOne {ch : List Nat} (h : WellFormedCharacter ch) :
    ∃ c, IsScalar c ∧ encodeOne c = ch := by
  cases h with
  | @ascii a ha => exact ⟨a, .inl (by omega), encodeOne_one (by omega)⟩
  | @two a b ha ha' hb =>
    obtain ⟨hb, hb'⟩ := hb
    refine ⟨(a - 0xC0) * 0x40 + (b - 0x80), .inl (by omega), ?_⟩
    rw [encodeOne_two (by omega) (by omega)]
    simp only [List.cons.injEq, and_true]
    omega
  | threeLow hb hb' hd =>
    exact exists_encodeOne_three (by omega) (by omega) ⟨by omega, hb'⟩ hd (by omega) (by omega)
  | three ha ha' hb hd =>
    exact exists_encodeOne_three (by omega) (by omega) hb hd (by omega) (by omega)
  | threeBelowSurrogates hb hb' hd =>
    exact exists_encodeOne_three (by omega) (by omega) ⟨hb, by omega⟩ hd (by omega) (by omega)
  | threeHigh ha ha' hb hd =>
    exact exists_encodeOne_three (by omega) (by omega) hb hd (by omega) (by omega)
  | fourLow hb hb' hd hf =>
    exact exists_encodeOne_four (by omega) (by omega) ⟨by omega, hb'⟩ hd hf (by omega) (by omega)
  | four ha ha' hb hd hf =>
    exact exists_encodeOne_four (by omega) (by omega) hb hd hf (by omega) (by omega)
  | fourHigh hb hb' hd hf =>
    exact exists_encodeOne_four (by omega) (by omega) ⟨hb, by omega⟩ hd hf (by omega) (by omega)

/-- **The well-formed bytes are the encodings of the texts that have one.** -/
theorem wellFormed_iff {bytes : List Nat} :
    WellFormed bytes ↔ ∃ t : Text, (∀ c ∈ t, IsScalar c) ∧ encode t = bytes := by
  constructor
  · intro h
    induction h with
    | nil => exact ⟨[], by simp, rfl⟩
    | append hch _ ih =>
      obtain ⟨c, hc, rfl⟩ := exists_encodeOne hch
      obtain ⟨t, ht, rfl⟩ := ih
      exact ⟨c :: t, List.forall_mem_cons.mpr ⟨hc, ht⟩, rfl⟩
  · rintro ⟨t, ht, rfl⟩
    induction t with
    | nil => exact .nil
    | cons c t ih =>
      obtain ⟨hc, ht⟩ := List.forall_mem_cons.mp ht
      exact .append (wellFormedCharacter_encodeOne hc) (ih ht)

/-! ## 3. The steps of the decoder -/

section Decoder

variable {b offset owed least most value start : Nat} {bs : List Nat} {done t : Text}

theorem leadState_two (h : 0xC2 ≤ b) (h' : b ≤ 0xDF) :
    leadState b start = some (.inside 1 0x80 0xBF (b - 0xC0) start) := by
  rw [leadState, if_pos ⟨h, h'⟩]

theorem leadState_three (h : 0xE0 ≤ b) (h' : b ≤ 0xEF) :
    leadState b start = some (.inside 2 (if b = 0xE0 then 0xA0 else 0x80)
      (if b = 0xED then 0x9F else 0xBF) (b - 0xE0) start) := by
  unfold leadState
  repeat' split
  all_goals first | omega | grind

theorem leadState_four (h : 0xF0 ≤ b) (h' : b ≤ 0xF4) :
    leadState b start = some (.inside 3 (if b = 0xF0 then 0x90 else 0x80)
      (if b = 0xF4 then 0x8F else 0xBF) (b - 0xF0) start) := by
  unfold leadState
  repeat' split
  all_goals first | omega | grind

theorem leadState_none (h : b < 0xC2 ∨ 0xF4 < b) : leadState b start = none := by
  unfold leadState
  repeat' split
  all_goals first | omega | rfl

theorem decodeGo_ascii (h : b < 0x80) :
    decodeGo (b :: bs) offset .between done = decodeGo bs (offset + 1) .between (b :: done) := by
  rw [decodeGo, if_pos h]

theorem decodeGo_lead {s : DecodeState} (h : 0x80 ≤ b) (hs : leadState b offset = some s) :
    decodeGo (b :: bs) offset .between done = decodeGo bs (offset + 1) s done := by
  rw [decodeGo, if_neg (by omega), hs]

theorem decodeGo_tail (h : least ≤ b) (h' : b ≤ most) :
    decodeGo (b :: bs) offset (.inside (owed + 2) least most value start) done =
      decodeGo bs (offset + 1) (.inside (owed + 1) 0x80 0xBF (value * 0x40 + (b - 0x80)) start)
        done := by
  rw [decodeGo, if_neg (by omega), if_neg (by omega)]
  rfl

theorem decodeGo_lastTail (h : least ≤ b) (h' : b ≤ most) :
    decodeGo (b :: bs) offset (.inside 1 least most value start) done =
      decodeGo bs (offset + 1) .between ((value * 0x40 + (b - 0x80)) :: done) := by
  rw [decodeGo, if_neg (by omega), if_pos (by omega)]

/-- A decoder inside a character goes on only over a byte in the range that it expects. -/
theorem exists_tail_of_decodeGo
    (h : decodeGo bs offset (.inside owed least most value start) done = .ok t) :
    ∃ b rest, bs = b :: rest ∧ least ≤ b ∧ b ≤ most := by
  cases bs with
  | nil => cases h
  | cons b rest =>
    by_cases hrange : b < least ∨ most < b
    · rw [decodeGo, if_pos hrange] at h
      cases h
    · exact ⟨b, rest, rfl, by omega, by omega⟩

end Decoder

/-! ## 4. Forwards -/

/-- The decoder reads a code point from its encoding. -/
theorem decodeGo_encodeOne {c : Nat} (h : IsScalar c) (rest : List Nat) (offset : Nat)
    (done : Text) :
    ∃ offset', decodeGo (encodeOne c ++ rest) offset .between done =
      decodeGo rest offset' .between (c :: done) := by
  unfold IsScalar at h
  by_cases hone : c < 0x80
  · rw [encodeOne_one hone]
    exact ⟨_, decodeGo_ascii hone⟩
  by_cases htwo : c < 0x800
  · rw [encodeOne_two (by omega) htwo]
    have hvalue : (0xC0 + c / 0x40 - 0xC0) * 0x40 + (0x80 + c % 0x40 - 0x80) = c := by omega
    refine ⟨offset + 1 + 1, ?_⟩
    rw [List.cons_append, decodeGo_lead (by omega) (leadState_two (by omega) (by omega)),
      List.cons_append, decodeGo_lastTail (by omega) (by omega), hvalue]
    rfl
  by_cases hthree : c < 0x10000
  · rw [encodeOne_three (by omega) hthree]
    have hvalue : ((0xE0 + c / 0x1000 - 0xE0) * 0x40 + (0x80 + c / 0x40 % 0x40 - 0x80)) * 0x40 +
        (0x80 + c % 0x40 - 0x80) = c := by
      omega
    refine ⟨offset + 1 + 1 + 1, ?_⟩
    rw [List.cons_append, decodeGo_lead (by omega) (leadState_three (by omega) (by omega)),
      List.cons_append, decodeGo_tail (by split <;> omega) (by split <;> omega),
      List.cons_append, decodeGo_lastTail (by omega) (by omega), hvalue]
    rfl
  · rw [encodeOne_four (by omega)]
    have hvalue : (((0xF0 + c / 0x40000 - 0xF0) * 0x40 + (0x80 + c / 0x1000 % 0x40 - 0x80)) * 0x40 +
        (0x80 + c / 0x40 % 0x40 - 0x80)) * 0x40 + (0x80 + c % 0x40 - 0x80) = c := by
      omega
    refine ⟨offset + 1 + 1 + 1 + 1, ?_⟩
    rw [List.cons_append, decodeGo_lead (by omega) (leadState_four (by omega) (by omega)),
      List.cons_append, decodeGo_tail (by split <;> omega) (by split <;> omega),
      List.cons_append, decodeGo_tail (by omega) (by omega),
      List.cons_append, decodeGo_lastTail (by omega) (by omega), hvalue]
    rfl

/-- **A text without a surrogate comes back from its bytes.** -/
theorem decode_encode {t : Text} (h : ∀ c ∈ t, IsScalar c) : decode (encode t) = .ok t := by
  suffices hgo : ∀ (t : Text), (∀ c ∈ t, IsScalar c) → ∀ offset done,
      decodeGo (encode t) offset .between done = .ok (done.reverse ++ t) by
    simpa [decode] using hgo t h 0 []
  intro t
  induction t with
  | nil =>
    intro _ offset done
    show Except.ok done.reverse = _
    rw [List.append_nil]
  | cons c t ih =>
    intro h offset done
    obtain ⟨hc, ht⟩ := List.forall_mem_cons.mp h
    obtain ⟨offset', hread⟩ := decodeGo_encodeOne hc (encode t) offset done
    show decodeGo (encodeOne c ++ encode t) offset .between done = _
    rw [hread, ih ht, List.reverse_cons, List.append_assoc]
    rfl

/-! ## 5. Backwards -/

theorem wellFormedCharacter_three {a b d : Nat} (ha : 0xE0 ≤ a) (ha' : a ≤ 0xEF)
    (hb : (if a = 0xE0 then 0xA0 else 0x80) ≤ b) (hb' : b ≤ if a = 0xED then 0x9F else 0xBF)
    (hd : IsTail d) : WellFormedCharacter [a, b, d] := by
  by_cases hlow : a = 0xE0
  · subst hlow
    exact .threeLow hb hb' hd
  rw [if_neg hlow] at hb
  by_cases hsurrogate : a = 0xED
  · subst hsurrogate
    exact .threeBelowSurrogates hb hb' hd
  rw [if_neg hsurrogate] at hb'
  by_cases hbelow : a ≤ 0xEC
  · exact .three (by omega) hbelow ⟨hb, hb'⟩ hd
  · exact .threeHigh (by omega) ha' ⟨hb, hb'⟩ hd

theorem wellFormedCharacter_four {a b d f : Nat} (ha : 0xF0 ≤ a) (ha' : a ≤ 0xF4)
    (hb : (if a = 0xF0 then 0x90 else 0x80) ≤ b) (hb' : b ≤ if a = 0xF4 then 0x8F else 0xBF)
    (hd : IsTail d) (hf : IsTail f) : WellFormedCharacter [a, b, d, f] := by
  by_cases hlow : a = 0xF0
  · subst hlow
    exact .fourLow hb hb' hd hf
  rw [if_neg hlow] at hb
  by_cases hhigh : a = 0xF4
  · subst hhigh
    exact .fourHigh hb hb' hd hf
  rw [if_neg hhigh] at hb'
  exact .four (by omega) (by omega) ⟨hb, hb'⟩ hd hf

/-- What a decoder accepts starts with a character of the table, and it accepts the rest. -/
theorem exists_character_of_decodeGo {b offset : Nat} {bs : List Nat} {done t : Text}
    (h : decodeGo (b :: bs) offset .between done = .ok t) :
    ∃ ch rest, WellFormedCharacter ch ∧ b :: bs = ch ++ rest ∧ ch ≠ [] ∧
      ∃ offset' done', decodeGo rest offset' .between done' = .ok t := by
  by_cases hascii : b < 0x80
  · rw [decodeGo_ascii hascii] at h
    exact ⟨[b], bs, .ascii (by omega), rfl, by simp, _, _, h⟩
  by_cases hnone : b < 0xC2 ∨ 0xF4 < b
  · rw [decodeGo, if_neg hascii, leadState_none hnone] at h
    cases h
  by_cases htwo : b ≤ 0xDF
  · rw [decodeGo_lead (by omega) (leadState_two (by omega) htwo)] at h
    obtain ⟨b₁, bs, rfl, hb₁, hb₁'⟩ := exists_tail_of_decodeGo h
    rw [decodeGo_lastTail hb₁ hb₁'] at h
    exact ⟨[b, b₁], bs, .two (by omega) htwo ⟨hb₁, hb₁'⟩, rfl, by simp, _, _, h⟩
  by_cases hthree : b ≤ 0xEF
  · rw [decodeGo_lead (by omega) (leadState_three (by omega) hthree)] at h
    obtain ⟨b₁, bs, rfl, hb₁, hb₁'⟩ := exists_tail_of_decodeGo h
    rw [decodeGo_tail hb₁ hb₁'] at h
    obtain ⟨b₂, bs, rfl, hb₂, hb₂'⟩ := exists_tail_of_decodeGo h
    rw [decodeGo_lastTail hb₂ hb₂'] at h
    refine ⟨[b, b₁, b₂], bs, ?_, rfl, by simp, _, _, h⟩
    exact wellFormedCharacter_three (by omega) hthree hb₁ hb₁' ⟨hb₂, hb₂'⟩
  · rw [decodeGo_lead (by omega) (leadState_four (by omega) (by omega))] at h
    obtain ⟨b₁, bs, rfl, hb₁, hb₁'⟩ := exists_tail_of_decodeGo h
    rw [decodeGo_tail hb₁ hb₁'] at h
    obtain ⟨b₂, bs, rfl, hb₂, hb₂'⟩ := exists_tail_of_decodeGo h
    rw [decodeGo_tail hb₂ hb₂'] at h
    obtain ⟨b₃, bs, rfl, hb₃, hb₃'⟩ := exists_tail_of_decodeGo h
    rw [decodeGo_lastTail hb₃ hb₃'] at h
    refine ⟨[b, b₁, b₂, b₃], bs, ?_, rfl, by simp, _, _, h⟩
    exact wellFormedCharacter_four (by omega) (by omega) hb₁ hb₁' ⟨hb₂, hb₂'⟩ ⟨hb₃, hb₃'⟩

theorem wellFormed_of_decodeGo {bytes : List Nat} {offset : Nat} {done t : Text}
    (h : decodeGo bytes offset .between done = .ok t) : WellFormed bytes := by
  induction hlength : bytes.length using Nat.strongRecOn generalizing bytes offset done with
  | _ n ih =>
    cases bytes with
    | nil => exact .nil
    | cons b bs =>
      obtain ⟨ch, rest, hch, hsplit, hne, offset', done', hrest⟩ := exists_character_of_decodeGo h
      have hshorter : rest.length < n := by
        have hpositive := List.length_pos_iff.mpr hne
        rw [hsplit, List.length_append] at hlength
        omega
      rw [hsplit]
      exact .append hch (ih _ hshorter hrest rfl)

/-! ## 6. What decodes -/

/-- **The bytes that decode are the well-formed ones.** -/
theorem exists_decode_iff {bytes : List Nat} : (∃ t, decode bytes = .ok t) ↔ WellFormed bytes := by
  constructor
  · rintro ⟨t, h⟩
    exact wellFormed_of_decodeGo h
  · intro h
    obtain ⟨t, ht, rfl⟩ := wellFormed_iff.mp h
    exact ⟨t, decode_encode ht⟩

/-- **A decoded text encodes to the bytes that it came from**, and it holds no surrogate. -/
theorem decode_eq_ok_iff {bytes : List Nat} {t : Text} :
    decode bytes = .ok t ↔ (∀ c ∈ t, IsScalar c) ∧ encode t = bytes := by
  constructor
  · intro h
    obtain ⟨t', ht', rfl⟩ := wellFormed_iff.mp (exists_decode_iff.mp ⟨t, h⟩)
    obtain rfl := Except.ok.inj ((decode_encode ht').symm.trans h)
    exact ⟨ht', rfl⟩
  · rintro ⟨ht, rfl⟩
    exact decode_encode ht

end Text
end ThreatScan
