/-
# Decoding untyped data

A decoder turns a JSON value into a value of a type, or says what is wrong with it.  Texts are
taken as they are; numbers and truth values are also read from numerals and from each other
where nothing is lost.  A record is decoded member by member: every member that is missing or
wrong is reported, in the order of the record, and members that it does not know are passed
over.
-/
import ThreatScan.Data.Numeral
import ThreatScan.Finding
import ThreatScan.Violation

namespace ThreatScan

/-- Decodes a value. -/
abbrev Decoder (α : Type) := Json → Checked α

namespace Decode

/-! ## 1. Single values -/

/-- A text. -/
def text : Decoder Text
  | .text t => .valid t
  | _ => .broken .text

/-- The integer that equals a number. -/
def wholeNumber (x : Binary64) : Checked Int :=
  match x.toRat? with
  | none => .broken .finite
  | some q =>
    if q.den ≠ 1 then .broken .whole
    else if q.num.natAbs < Nat.pow 2 63 then .valid q.num
    else .broken .numeralSize

/-- The integer that a text writes has more than 4300 digits. -/
def hasTooManyDigits (t : Text) (n : Int) : Bool := 4300 < t.length && Nat.pow 10 4300 ≤ n.natAbs

/-- An integer. -/
def integer : Decoder Int
  | .int n => .valid n
  | .bool b => .valid (if b then 1 else 0)
  | .float x => wholeNumber x
  | .text t =>
    match Numeral.integer? t with
    | some n => if hasTooManyDigits t n then .broken .numeralSize else .valid n
    | none => .broken .integerNumeral
  | _ => .broken .integer

/-- A number. -/
def number : Decoder Binary64
  | .float x => .valid x
  | .int n => .valid (Binary64.ofInt n)
  | .bool b => .valid (if b then 1 else 0)
  | .text t =>
    match Numeral.number? t with
    | some x => .valid x
    | none => .broken .numberNumeral
  | _ => .broken .number

/-- The truth value of an integer. -/
def zeroOrOne (n : Int) : Checked Bool :=
  if n = 0 then .valid false else if n = 1 then .valid true else .broken .booleanWord

/-- A truth value. -/
def boolean : Decoder Bool
  | .bool b => .valid b
  | .int n => zeroOrOne n
  | .float x =>
    match wholeNumber x with
    | .valid n => zeroOrOne n
    | .invalid _ => .broken .boolean
  | .text t =>
    match Numeral.boolean? t with
    | some b => .valid b
    | none => .broken .booleanWord
  | _ => .broken .boolean

/-- One of several names. -/
def choice {α : Type} (names : List Text) (ofName? : Text → Option α) : Decoder α
  | .text t =>
    match ofName? t with
    | some a => .valid a
    | none => .broken (.choice names)
  | _ => .broken (.choice names)

/-- A level. -/
def level : Decoder Level := choice ["HIGH", "MEDIUM", "LOW"] Level.ofName?

/-- A category. -/
def category : Decoder Category :=
  choice ["malware", "suspicious", "extension", "vulnerability", "anomaly"] Category.ofName?

/-! ## 2. Bounds -/

/-- Bounds of a number; either may be absent. -/
structure Bounds where
  least : Option Int := none
  most : Option Int := none
deriving DecidableEq, Repr

namespace Bounds

/-- From zero on. -/
def natural : Bounds := ⟨some 0, none⟩

/-- From one on. -/
def positive : Bounds := ⟨some 1, none⟩

/-- From zero to one. -/
def unit : Bounds := ⟨some 0, some 1⟩

/-- From zero to ten. -/
def tenths : Bounds := ⟨some 0, some 10⟩

/-- From zero to one hundred. -/
def percent : Bounds := ⟨some 0, some 100⟩

/-- The bound that an integer breaks. -/
def brokenBy (b : Bounds) (n : Int) : Option Rule :=
  match b.most.filter (· < n), b.least.filter (n < ·) with
  | some most, _ => some (.atMost most)
  | none, some least => some (.atLeast least)
  | none, none => none

/-- The bound that a number breaks; what is no number breaks every bound. -/
def brokenByNumber (b : Bounds) (x : Binary64) : Option Rule :=
  match b.most.filter (fun m => !x.atMost (.ofInt m)),
    b.least.filter (fun l => !Binary64.atMost (.ofInt l) x) with
  | some most, _ => some (.atMost most)
  | none, some least => some (.atLeast least)
  | none, none => none

end Bounds

/-- An integer within bounds. -/
def integerIn (b : Bounds) : Decoder Int := fun j =>
  (integer j).andThen fun n => match b.brokenBy n with
    | some r => .broken r
    | none => .valid n

/-- A number within bounds. -/
def numberIn (b : Bounds) : Decoder Binary64 := fun j =>
  (number j).andThen fun x => match b.brokenByNumber x with
    | some r => .broken r
    | none => .valid x

/-! ## 3. Compound values -/

/-- A value or `null`. -/
def optional {α : Type} (d : Decoder α) : Decoder (Option α)
  | .null => .valid none
  | j => (d j).map some

/-- The items of a list from place `i` on. -/
def itemsFrom {α : Type} (d : Decoder α) : Nat → List Json → Checked (List α)
  | _, [] => .valid []
  | i, j :: js => List.cons <$> (d j).within (.index i) <*> itemsFrom d (i + 1) js

/-- A list. -/
def listOf {α : Type} (d : Decoder α) : Decoder (List α)
  | .array js => itemsFrom d 0 js
  | _ => .broken .list

/-- A list of texts. -/
def texts : Decoder (List Text) := listOf text

/-- The members of an object. -/
abbrev Members := List (Text × Json)

/-- A member that has to be there. -/
def required {α : Type} (name : Text) (d : Decoder α) (ms : Members) : Checked α :=
  match ms.lookup name with
  | some j => (d j).within (.field name)
  | none => .invalid [.atField name .missing]

/-- A member with a default. -/
def defaulted {α : Type} (name : Text) (default : α) (d : Decoder α) (ms : Members) : Checked α :=
  match ms.lookup name with
  | some j => (d j).within (.field name)
  | none => .valid default

/-- A record, given how to decode its members. -/
def record {α : Type} (name : Text) (f : Members → Checked α) : Decoder α
  | .object ms => f ms
  | _ => .broken (.record name)

end Decode
end ThreatScan
