/-
# Messages without surrogates

A message has no surrogate if the template and the texts among its arguments have none
(`allScalar_message`).  All that a template adds is ASCII: signs, digits, the names of values,
quotation marks and escapes.  The one way to a surrogate is an integer that is written as the
character with this number.
-/
import ThreatScan.Log.Template
import ThreatScan.Log.Traced
import ThreatScan.Proofs.Report.RoundTrip

namespace ThreatScan

/-! ## 1. Parts of texts, and fields -/

namespace Text

theorem AllScalar.of_subset {t u : Text} (hu : u.AllScalar) (h : t ⊆ u) : t.AllScalar :=
  fun c hc => hu c (h hc)

theorem AllScalar.take {t : Text} (ht : t.AllScalar) (n : ℕ) : AllScalar (t.take n) :=
  ht.of_subset (List.take_subset n t)

theorem AllScalar.drop {t : Text} (ht : t.AllScalar) (n : ℕ) : AllScalar (t.drop n) :=
  ht.of_subset (List.drop_subset n t)

theorem allScalar_reverse {t : Text} : AllScalar t.reverse ↔ t.AllScalar := by
  simp [AllScalar]

theorem allScalar_replicate {c : ℕ} (hc : IsScalar c) (n : ℕ) :
    AllScalar (List.replicate n c) := by
  intro d hd
  obtain rfl := List.eq_of_mem_replicate hd
  exact hc

theorem AllScalar.padLeft {t : Text} (ht : t.AllScalar) {fill : ℕ} (hfill : IsScalar fill) (n : ℕ) :
    AllScalar (padLeft n fill t) :=
  allScalar_append.mpr ⟨allScalar_replicate hfill _, ht⟩

theorem AllScalar.padRight {t : Text} (ht : t.AllScalar) (n : ℕ) : AllScalar (padRight n t) :=
  allScalar_append.mpr ⟨ht, allScalar_replicate (by decide) _⟩

theorem allScalar_hexDigits (count n : ℕ) : AllScalar (hexDigits count n) := by
  have hdigit : ∀ m < 16, IsScalar (hexDigit m) := by decide
  induction count generalizing n with
  | zero => exact allScalar_nil
  | succ count ih =>
    have hlast := hdigit (n % 16) (Nat.mod_lt _ (by decide))
    exact allScalar_append.mpr ⟨ih _, allScalar_cons.mpr ⟨hlast, allScalar_nil⟩⟩

theorem allScalar_numericEscape (c : ℕ) : AllScalar (numericEscape c) := by
  unfold numericEscape
  split_ifs <;> simp [allScalar_cons, allScalar_hexDigits, IsScalar]

theorem allScalar_quoteOne {mark c : ℕ} (hc : IsScalar c) (ascii : Bool) :
    AllScalar (quoteOne mark ascii c) := by
  have hone : AllScalar [c] := allScalar_cons.mpr ⟨hc, allScalar_nil⟩
  have hescape (d : ℕ) (hd : IsScalar d) : AllScalar [92, d] :=
    allScalar_cons.mpr ⟨by decide, allScalar_cons.mpr ⟨hd, allScalar_nil⟩⟩
  unfold quoteOne
  split_ifs
  · exact hescape c hc
  · exact hescape 110 (by decide)
  · exact hescape 114 (by decide)
  · exact hescape 116 (by decide)
  · exact allScalar_numericEscape c
  · exact hone

theorem allScalar_marked {t : Text} (ht : t.AllScalar) (ascii : Bool) :
    AllScalar (quoteMark t :: t.flatMap (quoteOne (quoteMark t) ascii) ++ [quoteMark t]) := by
  have hmark : IsScalar (quoteMark t) := by
    unfold quoteMark
    split <;> decide
  have hinside : AllScalar (t.flatMap (quoteOne (quoteMark t) ascii)) := by
    intro c hc
    obtain ⟨d, hd, hc⟩ := List.mem_flatMap.mp hc
    exact allScalar_quoteOne (ht d hd) ascii c hc
  simp [allScalar_append, allScalar_cons, allScalar_nil, hmark, hinside]

end Text

/-! ## 2. Numbers -/

namespace Decimal

open Text

theorem allScalar_digitText (count n : ℕ) : AllScalar (digitText count n) :=
  (isDigits_digitText count n).allScalar

theorem allScalar_exponentText (padded : Bool) (e : ℤ) : AllScalar (exponentText padded e) := by
  have hdigits : AllScalar (Text.ofNat e.natAbs) := (isDigits_ofNat _).allScalar
  have hpadded : AllScalar (padLeft 2 48 (Text.ofNat e.natAbs)) := hdigits.padLeft (by decide) 2
  unfold exponentText
  split_ifs <;> simp [allScalar_cons, hdigits, hpadded, IsScalar]

theorem allScalar_zeros (n : ℕ) : AllScalar (List.replicate n 48) :=
  (isDigits_replicate n).allScalar

/-- A point and the digits after it, if there are any. -/
theorem allScalar_fraction {p : Prop} [Decidable p] {t : Text} (ht : t.AllScalar) :
    AllScalar (if p then [] else 46 :: t) := by
  split
  · exact allScalar_nil
  · exact allScalar_cons.mpr ⟨by decide, ht⟩

theorem allScalar_scientificText (padded : Bool) (d : Digits) :
    AllScalar (scientificText padded d) := by
  have hdigits := allScalar_digitText d.count d.digits
  refine allScalar_append.mpr ⟨allScalar_append.mpr ⟨hdigits.take 1, ?_⟩, ?_⟩
  · exact allScalar_fraction (hdigits.drop 1)
  · exact allScalar_exponentText padded d.exponent

theorem allScalar_positionalText (d : Digits) : AllScalar (positionalText d) := by
  have hdigits := allScalar_digitText d.count d.digits
  unfold positionalText
  dsimp only
  split_ifs <;> simp [allScalar_append, allScalar_cons, allScalar_nil, allScalar_zeros, hdigits,
    hdigits.take, hdigits.drop, IsScalar]

/-- A number as it stands in messages. -/
theorem allScalar_render_plain (x : Binary64) : AllScalar (plain.render x) := by
  have hpositive (q : ℚ) : AllScalar (plain.positive q) := by
    unfold Layout.positive
    dsimp only
    split_ifs
    · exact allScalar_positionalText _
    · exact allScalar_scientificText _ _
  unfold Layout.render
  split
  · exact allScalar_ofString _
  · exact allScalar_ofString _
  · exact allScalar_ofString _
  · exact allScalar_ofString _
  · split_ifs
    · exact allScalar_ofString _
    · exact allScalar_cons.mpr ⟨by decide, hpositive _⟩
    · exact hpositive _

theorem allScalar_fixedMagnitude (places : ℕ) (q : ℚ) : AllScalar (fixedMagnitude places q) := by
  unfold fixedMagnitude placesText
  have hdigits (n : ℕ) := allScalar_digitText (places + 1) n
  dsimp only
  split_ifs
  · exact hdigits _
  · simp [allScalar_append, allScalar_cons, (hdigits _).take, (hdigits _).drop, IsScalar]

theorem allScalar_scientificMagnitude (places : ℕ) (q : ℚ) :
    AllScalar (scientificMagnitude places q) := by
  unfold scientificMagnitude
  split
  · refine allScalar_append.mpr ⟨allScalar_cons.mpr ⟨by decide, ?_⟩, allScalar_exponentText true 0⟩
    exact allScalar_fraction (allScalar_zeros places)
  · exact allScalar_scientificText _ _

theorem allScalar_dropZeros {t : Text} (ht : t.AllScalar) : AllScalar (dropZeros t) := by
  have hrest : AllScalar (t.reverse.dropWhile (· = 48)) :=
    (allScalar_reverse.mpr ht).of_subset (List.dropWhile_sublist _).subset
  unfold dropZeros
  dsimp only
  split_ifs
  · exact allScalar_reverse.mpr (hrest.drop 1)
  · exact allScalar_reverse.mpr hrest
  · exact ht

theorem allScalar_generalMagnitude (keepZeros : Bool) (digits : ℕ) (q : ℚ) :
    AllScalar (generalMagnitude keepZeros digits q) := by
  have htidy {t : Text} (ht : t.AllScalar) : AllScalar (if keepZeros then t else dropZeros t) := by
    split_ifs
    · exact ht
    · exact allScalar_dropZeros ht
  unfold generalMagnitude
  set p := if digits = 0 then 1 else digits
  set d := nearestDigits p (Rounding.magnitude q)
  have hdigits : AllScalar (digitText d.count d.digits) := allScalar_digitText _ _
  dsimp only
  split
  · refine htidy ?_
    split_ifs
    · decide
    · exact allScalar_cons.mpr ⟨by decide, allScalar_cons.mpr ⟨by decide, allScalar_zeros _⟩⟩
  split
  · split
    · refine htidy (allScalar_append.mpr ⟨allScalar_append.mpr ⟨by decide, ?_⟩, hdigits⟩)
      exact allScalar_zeros _
    · exact htidy (allScalar_append.mpr ⟨hdigits.take _, allScalar_fraction (hdigits.drop _)⟩)
  · refine allScalar_append.mpr ⟨htidy ?_, allScalar_exponentText true _⟩
    exact allScalar_append.mpr ⟨hdigits.take 1, allScalar_fraction (hdigits.drop 1)⟩

end Decimal

/-! ## 3. Values and places -/

namespace Template

open Text Json

theorem allScalar_literalItems {ascii : Bool} {items : List Json}
    (h : ∀ x ∈ items, AllScalar (literal ascii x)) : AllScalar (literalItems ascii items) := by
  induction items with
  | nil => exact allScalar_nil
  | cons x xs ih =>
    obtain ⟨hx, hxs⟩ := List.forall_mem_cons.mp h
    simp [literalItems, allScalar_append, allScalar_cons, hx, ih hxs, IsScalar]

theorem allScalar_literalMembers {ascii : Bool} {members : List (Text × Json)}
    (hnames : ∀ m ∈ members, AllScalar m.1)
    (hvalues : ∀ m ∈ members, AllScalar (literal ascii m.2)) :
    AllScalar (literalMembers ascii members) := by
  induction members with
  | nil => exact allScalar_nil
  | cons m ms ih =>
    obtain ⟨hname, hnames⟩ := List.forall_mem_cons.mp hnames
    obtain ⟨hvalue, hvalues⟩ := List.forall_mem_cons.mp hvalues
    have hquoted : AllScalar (quoted m.1) := allScalar_marked hname false
    simp [literalMembers, allScalar_append, allScalar_cons, hquoted, hvalue, ih hnames hvalues,
      IsScalar]

/-- A value whose texts have no surrogates is written without any. -/
theorem allScalar_literal {j : Json} (h : Carries (fun _ => True) j) (ascii : Bool) :
    AllScalar (literal ascii j) := by
  induction h with
  | null => exact allScalar_ofString _
  | bool b => cases b <;> exact allScalar_ofString _
  | int n => exact allScalar_ofString _
  | float => exact Decimal.allScalar_render_plain _
  | text ht =>
    rw [literal]
    cases ascii
    · exact allScalar_marked ht false
    · exact allScalar_marked ht true
  | @array items _ ih =>
    cases items with
    | nil => exact allScalar_ofString _
    | cons x xs =>
      obtain ⟨hx, hxs⟩ := List.forall_mem_cons.mp ih
      simp [literal, allScalar_append, allScalar_cons, allScalar_nil, hx,
        allScalar_literalItems hxs, IsScalar]
  | @object members hnames _ ih =>
    cases members with
    | nil =>
      rw [literal]
      decide
    | cons m ms =>
      obtain ⟨hname, hnames⟩ := List.forall_mem_cons.mp hnames
      obtain ⟨hvalue, hvalues⟩ := List.forall_mem_cons.mp ih
      have hquoted : AllScalar (quoted m.1) := allScalar_marked hname false
      simp [literal, allScalar_append, allScalar_cons, allScalar_nil, hquoted, hvalue,
        allScalar_literalMembers hnames hvalues, IsScalar]

theorem allScalar_display {j : Json} (h : Carries (fun _ => True) j) : AllScalar (display j) := by
  unfold display
  split
  · cases h with
    | text ht => exact ht
  · exact allScalar_literal h false

theorem allScalar_fit (p : Place) (numeric : Bool) {sign digits : Text} (hsign : sign.AllScalar)
    (hdigits : digits.AllScalar) : AllScalar (p.fit numeric sign digits) := by
  unfold Place.fit
  dsimp only
  split_ifs
  · exact allScalar_append.mpr ⟨hsign, hdigits.padRight _⟩
  · exact allScalar_append.mpr ⟨hsign, hdigits.padLeft (by decide) _⟩
  · exact (allScalar_append.mpr ⟨hsign, hdigits⟩).padLeft (by decide) _

theorem allScalar_sign (p : Place) (negative : Bool) : AllScalar (p.sign negative) := by
  unfold Place.sign
  split_ifs <;> decide

theorem allScalar_capitals {t : Text} (ht : t.AllScalar) : AllScalar (capitals t) := by
  intro c hc
  obtain ⟨d, hd, rfl⟩ := List.mem_map.mp hc
  by_cases hsmall : 97 ≤ d ∧ d ≤ 122
  · rw [if_pos hsmall]
    exact .inl (Nat.lt_of_le_of_lt (Nat.sub_le d 32) (Nat.lt_of_le_of_lt hsmall.2 (by decide)))
  · rw [if_neg hsmall]
    exact ht d hd

theorem allScalar_integer (p : Place) (base : ℕ) {mark : Text} (hmark : mark.AllScalar) (n : ℤ) :
    AllScalar (p.integer base mark n) := by
  have hdigits : AllScalar (baseDigits base n.natAbs) := by
    intro c hc
    obtain ⟨d, -, rfl⟩ := List.mem_map.mp hc
    exact d.valid
  have hfront : AllScalar (if p.alternate then mark else []) := by
    split
    · exact hmark
    · exact allScalar_nil
  exact allScalar_fit p true (allScalar_append.mpr ⟨allScalar_sign p _, hfront⟩)
    (hdigits.padLeft (by decide) _)

theorem allScalar_number (p : Place) {magnitude : ℚ → Text} (h : ∀ q, AllScalar (magnitude q))
    (x : Binary64) : AllScalar (p.number magnitude x) := by
  refine allScalar_fit p true (allScalar_sign p _) ?_
  split
  · exact allScalar_ofString _
  · exact allScalar_ofString _
  · exact h _

theorem allScalar_point (p : Place) {t : Text} (ht : t.AllScalar) : AllScalar (p.point t) := by
  unfold Place.point
  split
  · have hfirst := ht.of_subset (List.takeWhile_sublist (· != 101)).subset
    have hlast := ht.of_subset (List.dropWhile_sublist (· != 101)).subset
    exact allScalar_append.mpr ⟨allScalar_append.mpr ⟨hfirst, by decide⟩, hlast⟩
  · exact ht

theorem allScalar_float (p : Place) (letter : ℕ) (x : Binary64) :
    AllScalar (p.float letter x) := by
  unfold Place.float
  dsimp only
  split_ifs
  · exact allScalar_number p (fun q => allScalar_point p (Decimal.allScalar_fixedMagnitude _ q)) x
  · exact allScalar_number p
      (fun q => allScalar_point p (Decimal.allScalar_scientificMagnitude _ q)) x
  · exact allScalar_number p (Decimal.allScalar_generalMagnitude p.alternate _) x

theorem allScalar_text (p : Place) {t : Text} (ht : t.AllScalar) : AllScalar (p.text t) := by
  refine allScalar_fit p false allScalar_nil ?_
  split
  · exact ht.take _
  · exact ht

/-- What comes out, if anything does, has no surrogate. -/
def YieldsScalar (x : Except Failure Text) : Prop := ∀ t, x = .ok t → t.AllScalar

theorem YieldsScalar.ok {t : Text} (ht : t.AllScalar) : YieldsScalar (.ok t) := by
  intro u hu
  obtain rfl := Except.ok.inj hu
  exact ht

theorem YieldsScalar.map {α : Type} {x : Except Failure α} {f : α → Text}
    (hf : ∀ a, x = .ok a → (f a).AllScalar) : YieldsScalar (x.map f) := by
  intro t ht
  obtain ⟨a, ha, rfl⟩ := Except.map_eq_ok_iff.mp ht
  exact hf a ha

theorem YieldsScalar.ite {c : Prop} [Decidable c] {x y : Except Failure Text}
    (hx : YieldsScalar x) (hy : YieldsScalar y) : YieldsScalar (if c then x else y) := by
  split
  · exact hx
  · exact hy

/-- A value without surrogates, be it as texts or as the number of a character. -/
structure IsClean (j : Json) : Prop where
  texts : Carries (fun _ => True) j
  character : YieldsScalar (characterOf j)

/-- **A place is filled without surrogates** if its argument has none. -/
theorem yieldsScalar_write {j : Json} (hj : IsClean j) (p : Place) (letter : ℕ) :
    YieldsScalar (p.write letter j) := by
  have hliteral := allScalar_literal hj.texts
  have hinteger (base : ℕ) {mark : Text} (hmark : mark.AllScalar) (n : ℤ) :=
    allScalar_integer p base hmark n
  have hfloat := allScalar_float p letter
  unfold Place.write
  refine .ite (.ok (allScalar_text p (allScalar_display hj.texts))) ?_
  refine .ite (.ok (allScalar_text p (hliteral false))) ?_
  refine .ite (.ok (allScalar_text p (hliteral true))) ?_
  refine .ite (.map fun u hu => allScalar_fit p false allScalar_nil (hj.character u hu)) ?_
  refine .ite (.map fun n _ => hinteger 10 allScalar_nil n) ?_
  refine .ite (.map fun n _ => hinteger 8 (allScalar_ofString _) n) ?_
  refine .ite (.map fun n _ => hinteger 16 (allScalar_ofString _) n) ?_
  refine .ite (.map fun n _ => allScalar_capitals (hinteger 16 (allScalar_ofString _) n)) ?_
  refine .ite (.map fun x _ => hfloat x) ?_
  refine .ite (.map fun x _ => allScalar_capitals (hfloat x)) ?_
  rintro t ⟨⟩

/-! ## 4. What reading leaves -/

/-- The values that a template can ask for. -/
def Arguments.values : Arguments → List Json
  | .ordered values => values
  | .named members current => current.toList ++ members.map (·.2)

/-- Reading leaves values that were there, and an end of the text. -/
def Leaves (args : Arguments) (t : Text) (args' : Arguments) (rest : Text) : Prop :=
  args'.values ⊆ args.values ∧ rest <:+ t

variable {args args' args'' : Arguments} {t u rest : Text}

theorem Leaves.refl (args : Arguments) (t : Text) : Leaves args t args t :=
  ⟨List.Subset.refl _, List.suffix_rfl⟩

theorem Leaves.trans (h : Leaves args t args' u) (h' : Leaves args' u args'' rest) :
    Leaves args t args'' rest :=
  ⟨fun _ hj => h.1 (h'.1 hj), h'.2.trans h.2⟩

theorem Leaves.of_suffix (h : Leaves args t args' u) (hrest : rest <:+ u) :
    Leaves args t args' rest :=
  ⟨h.1, hrest.trans h.2⟩

theorem Leaves.cons (h : Leaves args t args' rest) (c : ℕ) : Leaves args (c :: t) args' rest :=
  ⟨h.1, h.2.trans (List.suffix_cons c t)⟩

theorem mem_of_next {j : Json} (h : args.next = .ok (j, args')) (t : Text) :
    j ∈ args.values ∧ Leaves args t args' t := by
  unfold Arguments.next at h
  split at h
  · obtain ⟨rfl, rfl⟩ := Prod.mk.inj (Except.ok.inj h)
    exact ⟨List.mem_cons_self, List.subset_cons_self _ _, List.suffix_rfl⟩
  · obtain ⟨rfl, rfl⟩ := Prod.mk.inj (Except.ok.inj h)
    exact ⟨List.mem_cons_self, List.subset_append_right _ _, List.suffix_rfl⟩
  · cases h
  · cases h

theorem values_select {members : List (Text × Json)} {name : Text}
    (h : Arguments.select members name = .ok args) : args.values ⊆ members.map (·.2) := by
  unfold Arguments.select at h
  split at h
  case h_1 j hj =>
    obtain rfl := Except.ok.inj h
    obtain ⟨before, after, rfl, -⟩ := List.lookup_eq_some_iff.mp hj
    simp [Arguments.values]
  case h_2 => cases h

theorem suffix_memberName {depth : ℕ} {name : Text} {r : Text × Text}
    (h : memberName depth name t = .ok r) : r.2 <:+ t := by
  induction t generalizing depth name with
  | nil => cases h
  | cons c t ih =>
    rw [memberName] at h
    split at h
    · obtain rfl := Except.ok.inj h
      exact List.suffix_cons c t
    · exact (ih h).trans (List.suffix_cons c t)

theorem leaves_forName (h : args.forName t = .ok (args', rest)) : Leaves args t args' rest := by
  unfold Arguments.forName at h
  split at h
  case h_1 t =>
    obtain ⟨members, hmembers, h⟩ := Except.bind_eq_ok_iff.mp h
    obtain ⟨⟨name, u⟩, hname, h⟩ := Except.bind_eq_ok_iff.mp h
    obtain ⟨selected, hselected, h⟩ := Except.bind_eq_ok_iff.mp h
    obtain ⟨rfl, rfl⟩ := Prod.mk.inj (Except.ok.inj h)
    refine Leaves.cons ⟨fun j hj => ?_, suffix_memberName hname⟩ 40
    have hmem := values_select hselected hj
    cases args with
    | ordered values => cases hmembers
    | named ms current =>
      obtain rfl := Except.ok.inj hmembers
      exact List.mem_append_right _ hmem
  case h_2 =>
    obtain ⟨rfl, rfl⟩ := Prod.mk.inj (Except.ok.inj h)
    exact .refl _ _

theorem suffix_flags (p : Place) (t : Text) : (flags p t).2 <:+ t := by
  induction t generalizing p with
  | nil => exact List.suffix_rfl
  | cons c t ih =>
    have hrest (p : Place) := (ih p).trans (List.suffix_cons c t)
    rw [flags]
    split_ifs
    · exact hrest _
    · exact hrest _
    · exact hrest _
    · exact hrest _
    · exact hrest _
    · exact List.suffix_rfl

theorem leaves_sizeAt {n : ℤ} (h : sizeAt args t = .ok (n, rest, args')) :
    Leaves args t args' rest := by
  unfold sizeAt at h
  split at h
  case h_1 t =>
    obtain ⟨⟨j, left⟩, hnext, h⟩ := Except.bind_eq_ok_iff.mp h
    have hleft : Leaves args (42 :: t) left t := (mem_of_next hnext t).2.cons 42
    cases j with
    | int n =>
      cases h
      exact hleft
    | bool b =>
      cases h
      exact hleft
    | null | float | text | array | object => cases h
  case h_2 =>
    cases h
    exact (Leaves.refl _ _).of_suffix (List.dropWhile_suffix _)

/-! ## 5. A place -/

/-- The precision of a place, if there is a point. -/
def precisionAt (p : Place) (args : Arguments) : Text → Except Failure (Place × Text × Arguments)
  | 46 :: t => (sizeAt args t).map fun r => ({ p with precision := some r.1.toNat }, r.2.1, r.2.2)
  | t => .ok (p, t, args)

/-- What follows one of the letters that change nothing. -/
def skipLetter : Text → Text
  | c :: t => if c = 104 ∨ c = 108 ∨ c = 76 then t else c :: t
  | [] => []

/-- The letter of a place, and what it writes. -/
def finish (p : Place) (args : Arguments) : Text → Except Failure (Text × Text × Arguments)
  | [] => .error .outOfDomain
  | 37 :: t => .ok ([37], t, args)
  | letter :: t => do
    let (j, args) ← args.next
    return (← p.write letter j, t, args)

/-- A place is read in four steps: name, width, precision and letter. -/
theorem place_eq (args : Arguments) (t : Text) : place args t =
    (args.forName t).bind fun (args, t) =>
      (sizeAt args (flags {} t).2).bind fun (width, rest, args) =>
        let p := (flags {} t).1
        (precisionAt { p with left := p.left || width < 0, width := width.natAbs } args rest).bind
          fun (p, t, args) => finish p args (skipLetter t) := by
  unfold place
  refine congrArg (Except.bind _) (funext fun ⟨args, t⟩ => ?_)
  refine congrArg (Except.bind _) (funext fun ⟨width, t, args⟩ => ?_)
  cases t with
  | nil => rfl
  | cons c t =>
    by_cases hc : c = 46
    · subst hc
      rfl
    · dsimp only
      rw [precisionAt.eq_2 _ _ _ (by simpa using hc)]
      split
      case h_1 heq => exact absurd (List.cons.inj heq).1 hc
      case h_2 => rfl

theorem suffix_skipLetter (t : Text) : skipLetter t <:+ t := by
  unfold skipLetter
  split
  · split
    · exact List.suffix_cons _ _
    · exact List.suffix_rfl
  · exact List.suffix_rfl

theorem leaves_precisionAt {p q : Place} (h : precisionAt p args t = .ok (q, rest, args')) :
    Leaves args t args' rest := by
  unfold precisionAt at h
  split at h
  case h_1 t =>
    obtain ⟨⟨n, u, left⟩, hsize, hr⟩ := Except.map_eq_ok_iff.mp h
    cases hr
    exact (leaves_sizeAt hsize).cons 46
  case h_2 =>
    cases h
    exact .refl _ _

theorem allScalar_finish {p : Place} {text : Text} (hargs : ∀ j ∈ args.values, IsClean j)
    (h : finish p args t = .ok (text, rest, args')) :
    text.AllScalar ∧ Leaves args t args' rest := by
  unfold finish at h
  split at h
  case h_1 => cases h
  case h_2 =>
    cases h
    exact ⟨by decide, (Leaves.refl _ _).cons 37⟩
  case h_3 letter t _ =>
    obtain ⟨⟨j, left⟩, hnext, h⟩ := Except.bind_eq_ok_iff.mp h
    obtain ⟨written, hwritten, h⟩ := Except.bind_eq_ok_iff.mp h
    cases h
    obtain ⟨hj, hleft⟩ := mem_of_next hnext rest
    exact ⟨yieldsScalar_write (hargs j hj) p letter text hwritten, hleft.cons letter⟩

/-- **A place has what it writes from its argument** and leaves an end of the template. -/
theorem allScalar_place {text : Text} (hargs : ∀ j ∈ args.values, IsClean j)
    (h : place args t = .ok (text, rest, args')) :
    text.AllScalar ∧ Leaves args t args' rest := by
  rw [place_eq] at h
  obtain ⟨⟨args₁, t₁⟩, hname, h⟩ := Except.bind_eq_ok_iff.mp h
  obtain ⟨⟨width, t₂, args₂⟩, hwidth, h⟩ := Except.bind_eq_ok_iff.mp h
  obtain ⟨⟨p, t₃, args₃⟩, hprecision, h⟩ := Except.bind_eq_ok_iff.mp h
  have hnamed : Leaves args t args₁ (flags {} t₁).2 :=
    (leaves_forName hname).of_suffix (suffix_flags {} t₁)
  have hsized : Leaves args t args₂ t₂ := hnamed.trans (leaves_sizeAt hwidth)
  have hskipped : Leaves args t args₃ (skipLetter t₃) :=
    (hsized.trans (leaves_precisionAt hprecision)).of_suffix (suffix_skipLetter t₃)
  obtain ⟨htext, hrest⟩ := allScalar_finish (fun j hj => hargs j (hskipped.1 hj)) h
  exact ⟨htext, hskipped.trans hrest⟩

/-! ## 6. The whole message -/

/-- What is filled in has no surrogate, and what is copied is a part of the template. -/
theorem allScalar_fillFrom {fuel : ℕ} {done message : Text} (hargs : ∀ j ∈ args.values, IsClean j)
    (ht : t.AllScalar) (hdone : done.AllScalar) (h : fillFrom fuel args t done = .ok message) :
    message.AllScalar := by
  induction fuel, args, t, done using fillFrom.induct with
  | case1 =>
    rw [fillFrom] at h
    cases h
  | case2 fuel args done hleft =>
    rw [fillFrom.eq_2 _ _ _ hleft] at h
    obtain rfl := Except.ok.inj h
    exact allScalar_reverse.mpr hdone
  | case3 args c t done =>
    rw [fillFrom] at h
    obtain rfl := Except.ok.inj h
    exact allScalar_reverse.mpr hdone
  | case4 fuel args t done ih =>
    rw [fillFrom] at h
    obtain ⟨⟨text, rest, left⟩, hplace, h⟩ := Except.bind_eq_ok_iff.mp h
    obtain ⟨htext, hvalues, hrest⟩ := allScalar_place hargs hplace
    have ht := (allScalar_cons.mp ht).2
    exact ih text rest left (fun j hj => hargs j (hvalues hj)) (ht.of_subset hrest.subset)
      (allScalar_append.mpr ⟨allScalar_reverse.mpr htext, hdone⟩) h
  | case5 fuel args c t done hc ih =>
    rw [fillFrom.eq_5 _ _ _ _ _ hc] at h
    obtain ⟨hscalar, ht⟩ := allScalar_cons.mp ht
    exact ih hargs ht (allScalar_cons.mpr ⟨hscalar, hdone⟩) h

/-- A list of arguments as a template sees it: one object with members gives names to its values. -/
def Arguments.ofList : List Json → Arguments
  | [.object (m :: ms)] => .ofMembers (m :: ms)
  | args => .ordered args

/-- **A message has no surrogate** if its template has none and no value is one. -/
theorem allScalar_message {template message : Text} {args : List Json}
    (htemplate : template.AllScalar) (hargs : ∀ j ∈ (Arguments.ofList args).values, IsClean j)
    (h : Template.message template args = .ok message) : message.AllScalar := by
  unfold Template.message at h
  split at h
  case h_1 =>
    obtain rfl := Except.ok.inj h
    exact htemplate
  case h_2 m ms => exact allScalar_fillFrom hargs htemplate allScalar_nil h
  case h_3 hobject =>
    rw [Arguments.ofList] at hargs
    · exact allScalar_fillFrom hargs htemplate allScalar_nil h
    · exact hobject

end Template
end ThreatScan
