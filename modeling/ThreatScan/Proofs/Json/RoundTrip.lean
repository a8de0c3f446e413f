/-
# Documents come back

What is printed is read as the value it was printed from, in every style.  Two things do not come
back and are left out by `IsPrintable`: a number that is not finite or no double, and a surrogate.
A text with surrogates may be none that bytes can encode.  As an escaped text it comes back all the
same if it is whole (`IsWhole`): only the two halves of a pair, one directly behind the other, are
joined and read as one character.

The reader's fuel is measured against the length of the printed value.  An item of a list is
preceded by a bracket or a comma, so the fuel that is spent on going from item to item is always
covered by a character that is not part of an item.
-/
import ThreatScan.Proofs.Json.Number
import ThreatScan.Proofs.Text.Decoding
import Mathlib.Data.List.Chain
import Mathlib.Data.List.DropRight

namespace ThreatScan
namespace Text

/-- The second code point completes the first one to a pair of surrogates. -/
def Joins (c d : ℕ) : Prop := 0xD800 ≤ c ∧ c ≤ 0xDBFF ∧ 0xDC00 ≤ d ∧ d ≤ 0xDFFF

instance (c d : ℕ) : Decidable (Joins c d) := inferInstanceAs (Decidable (_ ∧ _))

/-- No pair of surrogates stands in the text, and nothing beyond the last code point. -/
structure IsWhole (t : Text) : Prop where
  range : ∀ c ∈ t, c < 0x110000
  apart : t.IsChain fun c d => ¬ Joins c d

instance (t : Text) : Decidable t.IsWhole :=
  decidable_of_iff ((∀ c ∈ t, c < 0x110000) ∧ t.IsChain fun c d => ¬ Joins c d)
    ⟨fun ⟨h₁, h₂⟩ => ⟨h₁, h₂⟩, fun h => ⟨h.range, h.apart⟩⟩

theorem isWhole_nil : IsWhole [] := ⟨by simp, .nil⟩

theorem isWhole_cons {c : ℕ} {t : Text} :
    IsWhole (c :: t) ↔ c < 0x110000 ∧ (∀ d ∈ t.head?, ¬ Joins c d) ∧ t.IsWhole := by
  constructor
  · rintro ⟨hrange, hapart⟩
    obtain ⟨hc, hrange⟩ := List.forall_mem_cons.mp hrange
    obtain ⟨hnext, hapart⟩ := List.isChain_cons.mp hapart
    exact ⟨hc, hnext, hrange, hapart⟩
  · rintro ⟨hc, hnext, hrange, hapart⟩
    exact ⟨List.forall_mem_cons.mpr ⟨hc, hrange⟩, List.isChain_cons.mpr ⟨hnext, hapart⟩⟩

/-- A text without surrogates is whole. -/
theorem isWhole_of_scalar {t : Text} (h : ∀ c ∈ t, IsScalar c) : t.IsWhole := by
  induction t with
  | nil => exact isWhole_nil
  | cons c t ih =>
    obtain ⟨hc, ht⟩ := List.forall_mem_cons.mp h
    unfold IsScalar at hc
    refine isWhole_cons.mpr ⟨by omega, ?_, ih ht⟩
    rintro d - ⟨hlow, hhigh, -⟩
    omega

end Text

namespace Json

/-! ## 1. Texts -/

section Texts

variable {n : ℕ} {done t : Text}

theorem hexValue?_hexDigit : ∀ {n : ℕ}, n < 16 → hexValue? (hexDigit n) = some n := by
  decide

theorem hexNumber?_hexDigit (h : n < 0x10000) :
    hexNumber? (hexDigit (n / 0x1000 % 16)) (hexDigit (n / 0x100 % 16)) (hexDigit (n / 16 % 16))
      (hexDigit (n % 16)) = some n := by
  have hdigit (m : ℕ) : hexValue? (hexDigit (m % 16)) = some (m % 16) :=
    hexValue?_hexDigit (Nat.mod_lt _ (by omega))
  simp only [hexNumber?, hdigit, Option.bind_eq_bind, Option.bind_some, Option.pure_def,
    Option.some.injEq]
  omega

theorem parseText?_unicodeEscape (h : n < 0x10000) :
    parseText? done (unicodeEscape n ++ t) = parseText? (pushUnit n done) t := by
  simp [unicodeEscape, parseText?, hexNumber?_hexDigit h]

theorem pushUnit_of_not_joins (h : ∀ c ∈ done.head?, ¬ Text.Joins c n) :
    pushUnit n done = n :: done := by
  cases done with
  | nil => rfl
  | cons c done =>
    rw [pushUnit, if_neg]
    rintro ⟨hlow, hhigh, hlow', hhigh'⟩
    exact h c rfl ⟨hlow', hhigh', hlow, hhigh⟩

/-- The two halves of a pair are put together. -/
theorem pushUnit_pair (hbeyond : 0xFFFF < n) (hrange : n < 0x110000) :
    pushUnit (0xDC00 + (n - 0x10000) % 0x400)
      (pushUnit (0xD800 + (n - 0x10000) / 0x400) done) = n :: done := by
  obtain ⟨high, hhigh⟩ : ∃ m : ℕ, (n - 0x10000) / 0x400 = m := ⟨_, rfl⟩
  obtain ⟨low, hlow⟩ : ∃ m : ℕ, (n - 0x10000) % 0x400 = m := ⟨_, rfl⟩
  rw [hhigh, hlow]
  have hfirst : pushUnit (0xD800 + high) done = (0xD800 + high) :: done := by
    cases done with
    | nil => rfl
    | cons c done =>
      rw [pushUnit, if_neg]
      rintro ⟨hdc, -⟩
      omega
  have hpair : 0xDC00 ≤ 0xDC00 + low ∧ 0xDC00 + low ≤ 0xDFFF ∧
      0xD800 ≤ 0xD800 + high ∧ 0xD800 + high ≤ 0xDBFF := by
    omega
  have hjoin : 0x10000 + (0xD800 + high - 0xD800) * 0x400 + (0xDC00 + low - 0xDC00) = n := by
    omega
  rw [hfirst, pushUnit, if_pos hpair, hjoin]

theorem parseText?_letter {e c : CodePoint} (h : letterEscape? e = some c) :
    parseText? done (92 :: e :: t) = parseText? (c :: done) t := by
  have hunicode : e ≠ 117 := by
    rintro rfl
    cases h
  simp [parseText?, hunicode, h]

theorem parseText?_cons (hquote : n ≠ 34) (hbackslash : n ≠ 92) (hcontrol : ¬ n < 32) :
    parseText? done (n :: t) = parseText? (n :: done) t := by
  simp [parseText?, hbackslash, hcontrol]

theorem parseText?_escapeOne (ascii : Bool) (hrange : n < 0x110000)
    (h : ∀ c ∈ done.head?, ¬ Text.Joins c n) :
    parseText? done (escapeOne ascii n ++ t) = parseText? (n :: done) t := by
  unfold escapeOne
  -- the quotation mark, the backslash and the five controls that have a letter
  iterate 7
    split
    case isTrue hn =>
      subst hn
      exact parseText?_letter rfl
  split
  case isTrue hcontrol =>
    have hplane : n < 0x10000 := Nat.lt_trans hcontrol (by omega)
    rw [parseText?_unicodeEscape hplane, pushUnit_of_not_joins h]
  split
  case isTrue => exact parseText?_cons ‹_› ‹_› ‹_›
  split
  case isTrue hplane => rw [parseText?_unicodeEscape hplane, pushUnit_of_not_joins h]
  case isFalse hplane =>
    have hbeyond : 0xFFFF < n := Nat.not_lt.mp hplane
    have hhalf : (n - 0x10000) / 0x400 < 0x400 := by omega
    have hlast : (n - 0x10000) % 0x400 < 0x400 := Nat.mod_lt _ (by omega)
    rw [List.append_assoc, parseText?_unicodeEscape (by omega), parseText?_unicodeEscape (by omega),
      pushUnit_pair hbeyond hrange]

/-- A whole text comes back from its quotation. -/
theorem parseText?_quote (ascii : Bool) (done t : Text) {u : Text} (hu : u.IsWhole)
    (hdone : ∀ c ∈ done.head?, ∀ d ∈ u.head?, ¬ Text.Joins c d) :
    parseText? done (u.flatMap (escapeOne ascii) ++ 34 :: t) = some (done.reverse ++ u, t) := by
  induction u generalizing done with
  | nil => simp [parseText?]
  | cons c u ih =>
    obtain ⟨hrange, hnext, hu⟩ := Text.isWhole_cons.mp hu
    rw [List.flatMap_cons, List.append_assoc,
      parseText?_escapeOne ascii hrange fun d hd => hdone d hd c rfl,
      ih (c :: done) hu (by simpa using hnext)]
    simp

/-- In particular one without surrogates does. -/
theorem parseText?_name (ascii : Bool) (t : Text) {u : Text} (hu : ∀ c ∈ u, Text.IsScalar c) :
    parseText? [] (u.flatMap (escapeOne ascii) ++ 34 :: t) = some (u, t) :=
  parseText?_quote ascii [] t (Text.isWhole_of_scalar hu) (by simp)

end Texts

/-! ## 2. White space -/

/-- White space and nothing else. -/
def IsGap (t : Text) : Prop := ∀ c ∈ t, isSpace c = true

section Gaps

variable {gap t : Text}

theorem skipSpace_append (h : IsGap gap) : skipSpace (gap ++ t) = skipSpace t :=
  List.dropWhile_append_of_pos h

theorem skipSpace_skipSpace : skipSpace (skipSpace t) = skipSpace t :=
  List.dropWhile_idempotent _ _

theorem skipSpace_cons {c : CodePoint} (h : isSpace c = false) : skipSpace (c :: t) = c :: t := by
  simp [skipSpace, h]

theorem skipSpace_gap {c : CodePoint} (hgap : IsGap gap) (hc : isSpace c = false) :
    skipSpace (gap ++ c :: t) = c :: t := by
  rw [skipSpace_append hgap, skipSpace_cons hc]

theorem isGap_break (s : Style) (depth : ℕ) : IsGap (s.break depth) := by
  intro c hc
  unfold Style.break at hc
  split at hc
  case h_1 => cases hc
  case h_2 =>
    rcases List.mem_cons.mp hc with rfl | hc
    · rfl
    · obtain rfl := List.eq_of_mem_replicate hc
      rfl

/-- Between two items stands a comma, with nothing but white space after it. -/
theorem exists_gap_comma (s : Style) (depth : ℕ) :
    ∃ gap, s.comma depth = 44 :: gap ∧ IsGap gap := by
  unfold Style.comma
  split
  case h_1 => exact ⟨[32], rfl, by simp [IsGap, isSpace]⟩
  case h_2 => exact ⟨_, rfl, isGap_break s depth⟩

theorem parseValue?_skipSpace (fuel : ℕ) : parseValue? fuel (skipSpace t) = parseValue? fuel t := by
  cases fuel with
  | zero => rfl
  | succ fuel => rw [parseValue?, parseValue?, skipSpace_skipSpace]

theorem parseItems?_skipSpace (fuel : ℕ) (done : List Json) :
    parseItems? fuel (skipSpace t) done = parseItems? fuel t done := by
  cases fuel with
  | zero => rfl
  | succ fuel => rw [parseItems?, parseItems?, parseValue?_skipSpace]

theorem parseMembers?_skipSpace (fuel : ℕ) (done : List (Text × Json)) :
    parseMembers? fuel (skipSpace t) done = parseMembers? fuel t done := by
  cases fuel with
  | zero => rfl
  | succ fuel => rw [parseMembers?, parseMembers?, skipSpace_skipSpace]

theorem parseValue?_gap (h : IsGap gap) (fuel : ℕ) :
    parseValue? fuel (gap ++ t) = parseValue? fuel t := by
  rw [← parseValue?_skipSpace, skipSpace_append h, parseValue?_skipSpace]

theorem not_digit_of_isSpace {c : CodePoint} (h : isSpace c = true) : isDigit c = false := by
  simp only [isSpace, Bool.or_eq_true, decide_eq_true_eq] at h
  rcases h with ((rfl | rfl) | rfl) | rfl <;> rfl

theorem endsNumber_cons {c : CodePoint} (h : isDigit c = false ∧ c ≠ 46 ∧ c ≠ 101 ∧ c ≠ 69) :
    EndsNumber (c :: t) := by
  rintro d ⟨⟩
  exact h

theorem endsNumber_gap (h : IsGap gap) (ht : EndsNumber t) : EndsNumber (gap ++ t) := by
  cases gap with
  | nil => exact ht
  | cons c gap =>
    have hc : isSpace c = true := h c List.mem_cons_self
    refine endsNumber_cons ⟨not_digit_of_isSpace hc, ?_, ?_, ?_⟩ <;> rintro rfl <;> cases hc

end Gaps

/-! ## 3. Values -/

/-- A value that a document can hold: its numbers are finite doubles, and there is no surrogate. -/
inductive IsPrintable : Json → Prop
  | null : IsPrintable .null
  | bool (b : Bool) : IsPrintable (.bool b)
  | int (n : ℤ) : IsPrintable (.int n)
  | float {x : Binary64} (hfinite : x.isFinite = true) (hdouble : x.IsDouble) :
    IsPrintable (.float x)
  | text {t : Text} (ht : ∀ c ∈ t, Text.IsScalar c) : IsPrintable (.text t)
  | array {items : List Json} (hitems : ∀ x ∈ items, IsPrintable x) : IsPrintable (.array items)
  | object {members : List (Text × Json)} (hnames : ∀ m ∈ members, ∀ c ∈ m.1, Text.IsScalar c)
    (hvalues : ∀ m ∈ members, IsPrintable m.2) : IsPrintable (.object members)

/-- What is printed for a value is read as this value, whatever comes after it. -/
def ComesBack (s : Style) (j : Json) : Prop :=
  ∀ (depth fuel : ℕ) (rest : Text), EndsNumber rest → (render s depth j).length < fuel →
    parseValue? fuel (render s depth j ++ rest) = some (j, rest)

theorem ComesBack.of_succ {s : Style} {j : Json}
    (h : ∀ (depth fuel : ℕ) (rest : Text), EndsNumber rest → (render s depth j).length ≤ fuel →
      parseValue? (fuel + 1) (render s depth j ++ rest) = some (j, rest)) : ComesBack s j := by
  intro depth fuel rest hrest hfuel
  obtain ⟨fuel, rfl⟩ : ∃ n, fuel = n + 1 := ⟨fuel - 1, by omega⟩
  exact h depth fuel rest hrest (by omega)

/-- A value with a text of its own. -/
theorem ComesBack.of_word {s : Style} {j : Json} (word : Text)
    (hword : ∀ depth, render s depth j = word)
    (h : ∀ fuel rest, parseValue? (fuel + 1) (word ++ rest) = some (j, rest)) :
    ComesBack s j := by
  refine .of_succ fun depth fuel rest _ _ => ?_
  rw [hword]
  exact h fuel rest

section Values

variable {s : Style} {depth fuel : ℕ} {gap rest : Text}

theorem parseValue?_of_parseNumber? {t : Text} {r : Json × Text} (h : parseNumber? t = some r) :
    parseValue? (fuel + 1) t = some r := by
  obtain ⟨c, u, rfl, hc⟩ := exists_head_of_parseNumber? h
  have hspace : isSpace c = false := by
    rw [Bool.eq_false_iff]
    intro hspace
    rcases hc with hc | rfl
    · rw [not_digit_of_isSpace hspace] at hc
      cases hc
    · cases hspace
  have hother : c ≠ 34 ∧ c ≠ 91 ∧ c ≠ 123 ∧ c ≠ 110 ∧ c ≠ 116 ∧ c ≠ 102 := by
    refine ⟨?_, ?_, ?_, ?_, ?_, ?_⟩ <;> rintro rfl <;> simp [isDigit] at hc
  obtain ⟨h34, h91, h123, h110, h116, h102⟩ := hother
  simp [parseValue?, skipSpace_cons hspace, h, h34, h91, h123, h110, h116, h102]

/-- A closing bracket is no value. -/
theorem skipSpace_ne_close {t : Text} {r : Json × Text} (h : parseValue? fuel t = some r)
    (u : Text) : skipSpace t ≠ 93 :: u := by
  intro hclose
  cases fuel with
  | zero => cases h
  | succ fuel =>
    have hnumber : parseNumber? (93 :: u) = some r := by
      simpa [parseValue?, hclose] using h
    obtain ⟨c, v, hhead, hc⟩ := exists_head_of_parseNumber? hnumber
    cases hhead
    simp [isDigit] at hc

theorem skipSpace_ne_close_of_parseItems? {t : Text} {done : List Json} {r : Json × Text}
    (h : parseItems? fuel t done = some r) (u : Text) : skipSpace t ≠ 93 :: u := by
  cases fuel with
  | zero => cases h
  | succ fuel =>
    rw [parseItems?] at h
    split at h
    case h_1 => cases h
    case h_2 hvalue => exact skipSpace_ne_close hvalue u

theorem parseValue?_array {t : Text} (h : ∀ u, skipSpace t ≠ 93 :: u) :
    parseValue? (fuel + 1) (91 :: t) = parseItems? fuel t [] := by
  have hopen : skipSpace (91 :: t) = 91 :: t := skipSpace_cons rfl
  simp only [parseValue?, hopen]
  exact parseItems?_skipSpace fuel []

theorem parseValue?_object {t : Text} (h : ∀ u, skipSpace t ≠ 125 :: u) :
    parseValue? (fuel + 1) (123 :: t) = parseMembers? fuel t [] := by
  have hopen : skipSpace (123 :: t) = 123 :: t := skipSpace_cons rfl
  simp only [parseValue?, hopen]
  exact parseMembers?_skipSpace fuel []

/-- The items of an array come back if each one does. -/
theorem parseItems?_render {x : Json} {xs : List Json} (done : List Json) (rest : Text)
    (hx : ComesBack s x) (hxs : ∀ y ∈ xs, ComesBack s y) (hgap : IsGap gap)
    (hfuel : (render s depth x).length + (renderItems s depth xs).length + 1 < fuel) :
    parseItems? fuel (render s depth x ++ (renderItems s depth xs ++ (gap ++ 93 :: rest))) done =
      some (.array (done.reverse ++ x :: xs), rest) := by
  obtain ⟨fuel, rfl⟩ : ∃ n, fuel = n + 1 := ⟨fuel - 1, by omega⟩
  induction xs generalizing x fuel done with
  | nil =>
    have hvalue := hx depth fuel (gap ++ 93 :: rest)
      (endsNumber_gap hgap (endsNumber_cons (by decide))) (by omega)
    have hclose : skipSpace (gap ++ 93 :: rest) = 93 :: rest := skipSpace_gap hgap rfl
    rw [renderItems, List.nil_append, parseItems?, hvalue]
    simp [hclose]
  | cons y ys ih =>
    obtain ⟨space, hcomma, hspace⟩ := exists_gap_comma s depth
    rw [renderItems, List.length_append, List.length_append, hcomma, List.length_cons] at hfuel
    have hvalue := hx depth fuel
      (44 :: (space ++ (render s depth y ++ (renderItems s depth ys ++ (gap ++ 93 :: rest)))))
      (endsNumber_cons (by decide)) (by omega)
    obtain ⟨fuel, rfl⟩ : ∃ n, fuel = n + 1 := ⟨fuel - 1, by omega⟩
    have hitems := ih (x :: done) (hxs y List.mem_cons_self)
      (fun z hz => hxs z (List.mem_cons_of_mem _ hz)) fuel (by omega)
    rw [← parseItems?_skipSpace, ← skipSpace_append hspace, parseItems?_skipSpace] at hitems
    simp only [renderItems, hcomma, List.cons_append, List.append_assoc]
    rw [parseItems?, hvalue]
    simp [skipSpace_cons, isSpace, hitems]

section Member

variable {k t u v : Text} {x : Json} {done : List (Text × Json)}

theorem skipSpace_quote (ascii : Bool) : skipSpace (quote ascii k ++ 58 :: 32 :: t) =
    34 :: (k.flatMap (escapeOne ascii) ++ 34 :: 58 :: 32 :: t) := by
  rw [quote, List.cons_append, List.cons_append, skipSpace_cons rfl, List.append_assoc]
  rfl

theorem parseValue?_space (hvalue : parseValue? fuel t = some (x, u)) :
    parseValue? fuel (32 :: t) = some (x, u) := by
  have hgap : IsGap [32] := by simp [IsGap, isSpace]
  rw [← hvalue]
  exact parseValue?_gap hgap fuel

theorem parseMembers?_comma (hk : ∀ c ∈ k, Text.IsScalar c)
    (hvalue : parseValue? fuel t = some (x, u)) (hu : skipSpace u = 44 :: v) :
    parseMembers? (fuel + 1) (quote s.ascii k ++ 58 :: 32 :: t) done =
      parseMembers? fuel v ((k, x) :: done) := by
  have hcolon : skipSpace (58 :: 32 :: t) = 58 :: 32 :: t := skipSpace_cons rfl
  simp only [parseMembers?, skipSpace_quote, parseText?_name s.ascii _ hk, hcolon,
    parseValue?_space hvalue, hu]

theorem parseMembers?_close (hk : ∀ c ∈ k, Text.IsScalar c)
    (hvalue : parseValue? fuel t = some (x, u)) (hu : skipSpace u = 125 :: v) :
    parseMembers? (fuel + 1) (quote s.ascii k ++ 58 :: 32 :: t) done =
      some (.object ((k, x) :: done).reverse, v) := by
  have hcolon : skipSpace (58 :: 32 :: t) = 58 :: 32 :: t := skipSpace_cons rfl
  simp only [parseMembers?, skipSpace_quote, parseText?_name s.ascii _ hk, hcolon,
    parseValue?_space hvalue, hu]

end Member

/-- The members of an object come back if each value does. -/
theorem parseMembers?_render {k : Text} {x : Json} {ms : List (Text × Json)}
    (done : List (Text × Json)) (rest : Text) (hk : ∀ c ∈ k, Text.IsScalar c) (hx : ComesBack s x)
    (hnames : ∀ m ∈ ms, ∀ c ∈ m.1, Text.IsScalar c) (hms : ∀ m ∈ ms, ComesBack s m.2)
    (hgap : IsGap gap)
    (hfuel : (render s depth x).length + (renderMembers s depth ms).length + 1 < fuel) :
    parseMembers? fuel (quote s.ascii k ++ 58 :: 32 :: (render s depth x ++
      (renderMembers s depth ms ++ (gap ++ 125 :: rest)))) done =
      some (.object (done.reverse ++ (k, x) :: ms), rest) := by
  obtain ⟨fuel, rfl⟩ : ∃ n, fuel = n + 1 := ⟨fuel - 1, by omega⟩
  induction ms generalizing k x fuel done with
  | nil =>
    have hvalue := hx depth fuel (gap ++ 125 :: rest)
      (endsNumber_gap hgap (endsNumber_cons (by decide))) (by omega)
    have hclose : skipSpace (gap ++ 125 :: rest) = 125 :: rest := skipSpace_gap hgap rfl
    rw [renderMembers, List.nil_append, parseMembers?_close hk hvalue hclose]
    simp
  | cons m ms ih =>
    obtain ⟨k', y⟩ := m
    obtain ⟨space, hcomma, hspace⟩ := exists_gap_comma s depth
    simp only [renderMembers, List.length_append, hcomma, List.length_cons] at hfuel
    have hvalue := hx depth fuel
      (44 :: (space ++ (quote s.ascii k' ++ 58 :: 32 :: (render s depth y ++
        (renderMembers s depth ms ++ (gap ++ 125 :: rest))))))
      (endsNumber_cons (by decide)) (by omega)
    obtain ⟨fuel, rfl⟩ : ∃ n, fuel = n + 1 := ⟨fuel - 1, by omega⟩
    have hmembers := ih (k := k') (x := y) ((k, x) :: done)
      (hnames (k', y) List.mem_cons_self) (hms (k', y) List.mem_cons_self)
      (fun z hz => hnames z (List.mem_cons_of_mem _ hz))
      (fun z hz => hms z (List.mem_cons_of_mem _ hz)) fuel (by omega)
    rw [← parseMembers?_skipSpace, ← skipSpace_append hspace, parseMembers?_skipSpace] at hmembers
    have htext : renderMembers s depth ((k', y) :: ms) ++ (gap ++ 125 :: rest) =
        44 :: (space ++ (quote s.ascii k' ++ 58 :: 32 :: (render s depth y ++
          (renderMembers s depth ms ++ (gap ++ 125 :: rest))))) := by
      simp [renderMembers, hcomma]
    rw [htext, parseMembers?_comma hk hvalue (skipSpace_cons rfl), hmembers]
    simp

theorem comesBack_text {t : Text} (ht : t.IsWhole) : ComesBack s (.text t) := by
  refine .of_succ fun depth fuel rest _ _ => ?_
  have htext : render s depth (.text t) ++ rest =
      34 :: (t.flatMap (escapeOne s.ascii) ++ 34 :: rest) := by
    simp [render, quote]
  have hread := parseText?_quote s.ascii [] rest ht (by simp)
  rw [htext]
  simp [parseValue?, skipSpace_cons, isSpace, hread]

theorem comesBack_array {items : List Json} (h : ∀ x ∈ items, ComesBack s x) :
    ComesBack s (.array items) := by
  cases items with
  | nil =>
    refine .of_word [91, 93] (fun _ => by rw [render]; rfl) fun fuel rest => ?_
    simp [parseValue?, skipSpace_cons, isSpace]
  | cons x xs =>
    refine .of_succ fun depth fuel rest _ hfuel => ?_
    have hgap := isGap_break s (depth + 1)
    have htext : render s depth (.array (x :: xs)) ++ rest =
        91 :: (s.break (depth + 1) ++ (render s (depth + 1) x ++
          (renderItems s (depth + 1) xs ++ (s.break depth ++ 93 :: rest)))) := by
      simp [render]
    have hlength : (render s (depth + 1) x).length + (renderItems s (depth + 1) xs).length + 1 <
        fuel := by
      simp only [render, List.length_append, List.length_cons] at hfuel
      omega
    have hitems := parseItems?_render [] rest (h x List.mem_cons_self)
      (fun y hy => h y (List.mem_cons_of_mem _ hy)) (isGap_break s depth) hlength
    rw [← parseItems?_skipSpace, ← skipSpace_append hgap, parseItems?_skipSpace] at hitems
    have hclose := skipSpace_ne_close_of_parseItems? hitems
    rw [htext, parseValue?_array hclose, hitems]
    rfl

theorem comesBack_object {members : List (Text × Json)}
    (hnames : ∀ m ∈ members, ∀ c ∈ m.1, Text.IsScalar c) (h : ∀ m ∈ members, ComesBack s m.2) :
    ComesBack s (.object members) := by
  cases members with
  | nil =>
    refine .of_word [123, 125] (fun _ => by rw [render]) fun fuel rest => ?_
    simp [parseValue?, skipSpace_cons, isSpace]
  | cons m ms =>
    obtain ⟨k, x⟩ := m
    refine .of_succ fun depth fuel rest _ hfuel => ?_
    have hgap := isGap_break s (depth + 1)
    have htext : render s depth (.object ((k, x) :: ms)) ++ rest =
        123 :: (s.break (depth + 1) ++ (quote s.ascii k ++ 58 :: 32 :: (render s (depth + 1) x ++
          (renderMembers s (depth + 1) ms ++ (s.break depth ++ 125 :: rest))))) := by
      simp [render]
    have hlength : (render s (depth + 1) x).length + (renderMembers s (depth + 1) ms).length + 1 <
        fuel := by
      simp only [render, List.length_append, List.length_cons] at hfuel
      omega
    have hmembers := parseMembers?_render [] rest
      (hnames (k, x) List.mem_cons_self) (h (k, x) List.mem_cons_self)
      (fun m hm => hnames m (List.mem_cons_of_mem _ hm))
      (fun m hm => h m (List.mem_cons_of_mem _ hm)) (isGap_break s depth) hlength
    rw [← parseMembers?_skipSpace, ← skipSpace_append hgap, parseMembers?_skipSpace] at hmembers
    have hclose (u : Text) : skipSpace (s.break (depth + 1) ++ (quote s.ascii k ++
        58 :: 32 :: (render s (depth + 1) x ++
          (renderMembers s (depth + 1) ms ++ (s.break depth ++ 125 :: rest))))) ≠ 125 :: u := by
      rw [skipSpace_append hgap, quote, List.cons_append, List.cons_append, skipSpace_cons rfl]
      simp
    rw [htext, parseValue?_object hclose, hmembers]
    rfl

/-- **A printed value comes back**, if it can be printed. -/
theorem comesBack_of_isPrintable (s : Style) {j : Json} (h : IsPrintable j) : ComesBack s j := by
  induction h with
  | null =>
    refine .of_word [110, 117, 108, 108] (fun _ => by rw [render]; rfl) fun fuel rest => ?_
    simp [parseValue?, skipSpace_cons, isSpace]
  | bool b =>
    cases b with
    | true =>
      refine .of_word [116, 114, 117, 101] (fun _ => by rw [render]; rfl) fun fuel rest => ?_
      simp [parseValue?, skipSpace_cons, isSpace]
    | false =>
      refine .of_word [102, 97, 108, 115, 101] (fun _ => by rw [render]; rfl) fun fuel rest => ?_
      simp [parseValue?, skipSpace_cons, isSpace]
  | int n =>
    refine .of_succ fun _ _ _ hrest _ => ?_
    rw [render]
    exact parseValue?_of_parseNumber? (parseNumber?_ofInt n hrest)
  | float hfinite hdouble =>
    refine .of_succ fun _ _ _ hrest _ => ?_
    rw [render]
    exact parseValue?_of_parseNumber? (parseNumber?_render s.numbers hfinite hdouble hrest)
  | text ht => exact comesBack_text (Text.isWhole_of_scalar ht)
  | array _ ih => exact comesBack_array ih
  | object hnames _ ih => exact comesBack_object hnames ih

/-- A document holds what comes back, and nothing else. -/
theorem ComesBack.parse?_print {j : Json} (h : ComesBack s j) : parse? (print s j) = some j := by
  have hfuel : (render s 0 j).length < 2 * (print s j).length + 1 := by
    rw [print]
    omega
  have hread := h 0 _ [] (by simp [EndsNumber]) hfuel
  rw [List.append_nil, ← print] at hread
  simp [parse?, hread, skipSpace]

/-- **A printed document comes back**, whatever the style. -/
theorem parse?_print (s : Style) {j : Json} (h : IsPrintable j) : parse? (print s j) = some j :=
  (comesBack_of_isPrintable s h).parse?_print

end Values
end Json
end ThreatScan
