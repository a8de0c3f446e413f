/-
# What a document holds

`Carries P j` says of a value that its texts have no surrogate and that its numbers, other than
integers, have the property `P`.  With finite doubles it can be printed in any style and comes back
(`isPrintable_of_carries`).

The layout of a full report has no form for an infinity or for no number; it writes `null` instead.
Such a report comes back all the same, with `null` in these places (`parse?_document`), and all its
other members are what they were.
-/
import Mathlib.Data.List.Nodup
import ThreatScan.Proofs.Data.RoundTrip
import ThreatScan.Proofs.Json.RoundTrip

namespace ThreatScan
namespace Json

/-! ## 1. Texts and numbers of a value -/

/-- No text of the value has a surrogate, and its numbers other than integers have a property. -/
inductive Carries (P : Binary64 → Prop) : Json → Prop
  | null : Carries P .null
  | bool (b : Bool) : Carries P (.bool b)
  | int (n : ℤ) : Carries P (.int n)
  | float {x : Binary64} (hx : P x) : Carries P (.float x)
  | text {t : Text} (ht : ∀ c ∈ t, Text.IsScalar c) : Carries P (.text t)
  | array {items : List Json} (hitems : ∀ x ∈ items, Carries P x) : Carries P (.array items)
  | object {members : List (Text × Json)} (hnames : ∀ m ∈ members, ∀ c ∈ m.1, Text.IsScalar c)
    (hvalues : ∀ m ∈ members, Carries P m.2) : Carries P (.object members)

variable {P : Binary64 → Prop} {j : Json}

/-- A value with finite doubles can be printed. -/
theorem isPrintable_of_carries (h : Carries (fun x => x.isFinite = true ∧ x.IsDouble) j) :
    IsPrintable j := by
  induction h with
  | null => exact .null
  | bool b => exact .bool b
  | int n => exact .int n
  | float hx => exact .float hx.1 hx.2
  | text ht => exact .text ht
  | array _ ih => exact .array ih
  | object hnames _ ih => exact .object hnames ih

/-! ## 2. Members -/

/-- The names of the members of an object, in order. -/
def names : Json → List Text
  | .object members => members.map (·.1)
  | _ => []

/-- What is reached from a value by the names of members, one after the other. -/
def follow? : List String → Json → Option Json
  | [], j => some j
  | name :: path, j => (j.get? name).bind (follow? path)

theorem get?_record (name : String) (members : List (String × Json)) :
    (record members).get? name = members.lookup name :=
  Decode.lookup_members members name

theorem names_record (members : List (String × Json)) :
    (record members).names = (members.map (·.1)).map Text.ofString := by
  simp [record, names]

/-- The names of members are different texts if they are different strings. -/
theorem nodup_names_record {members : List (String × Json)} (h : (members.map (·.1)).Nodup) :
    (record members).names.Nodup := by
  rw [names_record]
  exact List.Nodup.map (fun _ _ => Text.ofString_inj.mp) h

/-! ## 3. Numbers that have no form -/

mutual

/-- The value with `null` for every number that is not finite. -/
def nulled : Json → Json
  | .null => .null
  | .bool b => .bool b
  | .int n => .int n
  | .float x => if x.isFinite then .float x else .null
  | .text t => .text t
  | .array items => .array (nulledItems items)
  | .object members => .object (nulledMembers members)

/-- The items with `null` for every number that is not finite. -/
def nulledItems : List Json → List Json
  | [] => []
  | x :: xs => nulled x :: nulledItems xs

/-- The members with `null` for every number that is not finite. -/
def nulledMembers : List (Text × Json) → List (Text × Json)
  | [] => []
  | (k, x) :: ms => (k, nulled x) :: nulledMembers ms

end

theorem nulledItems_eq (items : List Json) : nulledItems items = items.map nulled := by
  induction items with
  | nil => rfl
  | cons x xs ih => rw [nulledItems, ih, List.map_cons]

theorem nulledMembers_eq (members : List (Text × Json)) :
    nulledMembers members = members.map fun m => (m.1, nulled m.2) := by
  induction members with
  | nil => rfl
  | cons m ms ih => rw [nulledMembers, ih, List.map_cons]

/-- A member of what is read is a member of the value. -/
theorem get?_nulled (name : Text) (j : Json) : (nulled j).get? name = (j.get? name).map nulled := by
  cases j with
  | object members =>
    rw [nulled, nulledMembers_eq, get?, get?]
    induction members with
    | nil => rfl
    | cons m ms ih =>
      rw [List.map_cons, List.lookup_cons, List.lookup_cons]
      split
      · rfl
      · exact ih
  | float x =>
    rw [nulled]
    split <;> rfl
  | _ => rfl

/-- What is reached where numbers are left out is what is reached in the value. -/
theorem follow?_nulled (path : List String) (j : Json) :
    follow? path (nulled j) = (follow? path j).map nulled := by
  induction path generalizing j with
  | nil => rfl
  | cons name path ih =>
    rw [follow?, follow?, get?_nulled, Option.bind_map, Option.map_bind]
    exact congrArg _ (funext ih)

theorem names_nulled (j : Json) : (nulled j).names = j.names := by
  cases j with
  | object members =>
    rw [nulled, nulledMembers_eq, names, names, List.map_map]
    rfl
  | float x =>
    rw [nulled]
    split <;> rfl
  | _ => rfl

theorem isPrintable_nulled (h : Carries Binary64.IsDouble j) : IsPrintable (nulled j) := by
  induction h with
  | null => exact .null
  | bool b => exact .bool b
  | int n => exact .int n
  | float hx =>
    rw [nulled]
    split
    · exact .float ‹_› hx
    · exact .null
  | text ht => exact .text ht
  | array _ ih =>
    rw [nulled, nulledItems_eq]
    exact .array (List.forall_mem_map.mpr ih)
  | object hnames _ ih =>
    rw [nulled, nulledMembers_eq]
    exact .object (List.forall_mem_map.mpr hnames) (List.forall_mem_map.mpr ih)

/-- The layout of a full report writes `null` for what is not finite. -/
theorem render_compact {x : Binary64} (h : x.isFinite = false) :
    Decimal.compact.render x = Text.ofString "null" := by
  cases x with
  | nan => rfl
  | inf negative => cases negative <;> rfl
  | _ => cases h

section Render

variable {s : Style} {depth : ℕ}

/-- Items that are written alike make up lists that are written alike. -/
theorem renderItems_map {f : Json → Json} {xs : List Json}
    (h : ∀ x ∈ xs, ∀ depth, render s depth (f x) = render s depth x) :
    renderItems s depth (xs.map f) = renderItems s depth xs := by
  induction xs with
  | nil => rfl
  | cons x xs ih =>
    obtain ⟨hx, hxs⟩ := List.forall_mem_cons.mp h
    rw [List.map_cons, renderItems, renderItems, hx, ih hxs]

theorem renderMembers_map {f : Json → Json} {ms : List (Text × Json)}
    (h : ∀ m ∈ ms, ∀ depth, render s depth (f m.2) = render s depth m.2) :
    renderMembers s depth (ms.map fun m => (m.1, f m.2)) = renderMembers s depth ms := by
  induction ms with
  | nil => rfl
  | cons m ms ih =>
    obtain ⟨hm, hms⟩ := List.forall_mem_cons.mp h
    rw [List.map_cons, renderMembers, renderMembers, hm, ih hms]

end Render

theorem render_nulled (h : Carries P j) (depth : ℕ) :
    render .document depth (nulled j) = render .document depth j := by
  induction h generalizing depth with
  | float =>
    rw [nulled]
    split
    case isTrue => rfl
    case isFalse hx =>
      rw [render, render]
      exact (render_compact (by simpa using hx)).symm
  | @array items _ ih =>
    rw [nulled, nulledItems_eq]
    cases items with
    | nil => rfl
    | cons x xs =>
      obtain ⟨hx, hxs⟩ := List.forall_mem_cons.mp ih
      rw [List.map_cons, render, render, hx, renderItems_map hxs]
  | @object members _ _ ih =>
    rw [nulled, nulledMembers_eq]
    cases members with
    | nil => rfl
    | cons m ms =>
      obtain ⟨hm, hms⟩ := List.forall_mem_cons.mp ih
      rw [List.map_cons, render, render, hm, renderMembers_map hms]
  | _ => rfl

/-- **A full report comes back with `null` for what is not finite.** -/
theorem parse?_document (h : Carries Binary64.IsDouble j) :
    parse? (print .document j) = some (nulled j) := by
  rw [print, ← render_nulled h]
  exact parse?_print .document (isPrintable_nulled h)

end Json
end ThreatScan
