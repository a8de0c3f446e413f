/-
# Points in time

The moment of a scan.  A timestamp has an offset from universal time or none at all.
-/
import ThreatScan.Data.Decode

namespace ThreatScan

/-- A date and a time of day, with the offset from universal time in seconds. -/
structure Timestamp where
  year : Nat
  month : Nat
  day : Nat
  hour : Nat
  minute : Nat
  second : Nat
  microsecond : Nat
  offset : Option Int
deriving DecidableEq, Repr, Inhabited

namespace Timestamp

/-! ## 1. Writing -/

/-- A number with at least `n` digits. -/
def digits (n value : Nat) : Text := Text.padLeft n 48 (Text.ofNat value)

/-- Date and time up to the second. -/
def localText (t : Timestamp) : Text :=
  digits 4 t.year ++ [45] ++ digits 2 t.month ++ [45] ++ digits 2 t.day ++ [84] ++
    digits 2 t.hour ++ [58] ++ digits 2 t.minute ++ [58] ++ digits 2 t.second

/-- An offset in hours and minutes. -/
def offsetText (offset : Int) : Text :=
  (if offset < 0 then 45 else 43) :: digits 2 (offset.natAbs / 3600) ++ [58] ++
    digits 2 (offset.natAbs / 60 % 60)

/-- The fraction of a second, if there is one. -/
def fractionText (t : Timestamp) : Text :=
  if t.microsecond = 0 then [] else 46 :: digits 6 t.microsecond

/-- The form in documents, where universal time is a `Z`. -/
def text (t : Timestamp) : Text :=
  t.localText ++ t.fractionText ++
    match t.offset with
    | none => []
    | some 0 => [90]
    | some offset => offsetText offset

/-- The form for readers: whole seconds, and the offset in figures. -/
def display (t : Timestamp) : Text :=
  t.localText ++ match t.offset with
    | none => []
    | some offset => offsetText offset

/-! ## 2. Reading -/

/-- A leap year. -/
def isLeap (year : Nat) : Bool := year % 4 = 0 && (year % 100 != 0 || year % 400 = 0)

/-- The number of days in a month. -/
def daysIn (year month : Nat) : Nat :=
  if month = 2 then (if isLeap year then 29 else 28)
  else if month = 4 ∨ month = 6 ∨ month = 9 ∨ month = 11 then 30 else 31

/-- The number that exactly `n` digits write, and what follows. -/
def take? (n : Nat) (t : Text) : Option (Nat × Text) :=
  let ds := t.take n
  if ds.length = n && ds.all Json.isDigit then some (Json.decimalValue ds, t.drop n) else none

/-- What follows one of the given code points. -/
def after? (cs : List CodePoint) : Text → Option Text
  | c :: t => if cs.contains c then some t else none
  | [] => none

/-- The date at the start of a text, and what follows. -/
def date? (t : Text) : Option (Nat × Nat × Nat × Text) := do
  let (year, t) ← take? 4 t
  let (month, t) ← take? 2 (← after? [45] t)
  let (day, t) ← take? 2 (← after? [45] t)
  if 1 ≤ month ∧ month ≤ 12 ∧ 1 ≤ day ∧ day ≤ daysIn year month then some (year, month, day, t)
  else none

/-- The seconds and the fraction after a minute, which may both be missing, and what follows. -/
def seconds? (t : Text) : Option (Nat × Nat × Text) :=
  match t with
  | 58 :: t => do
    let (second, t) ← take? 2 t
    if 59 < second then none
    else match t with
      | 46 :: t =>
        let (ds, t) := Json.digitsOf t
        if ds.isEmpty then none
        else some (second, Json.decimalValue ((ds ++ List.replicate 6 48).take 6), t)
      | t => some (second, 0, t)
  | t => some (0, 0, t)

/-- The offset at the end of a text. -/
def offset? : Text → Option (Option Int)
  | [] => some none
  | c :: t =>
    if c = 90 ∨ c = 122 then (if t.isEmpty then some (some 0) else none)
    else if c = 43 ∨ c = 45 then do
      let (hours, t) ← take? 2 t
      let t := (after? [58] t).getD t
      let (minutes, t) ← take? 2 t
      if t.isEmpty ∧ hours ≤ 23 ∧ minutes ≤ 59 then
        let seconds : Int := hours * 3600 + minutes * 60
        some (some (if c = 45 then -seconds else seconds))
      else none
    else none

/-- The timestamp that a text writes; a date alone stands for its midnight. -/
def ofText? (t : Text) : Option Timestamp := do
  let (year, month, day, t) ← date? t
  if t.isEmpty then some ⟨year, month, day, 0, 0, 0, 0, none⟩
  else
    let t ← after? [84, 116, 32, 95] t
    let (hour, t) ← take? 2 t
    let (minute, t) ← take? 2 (← after? [58] t)
    let (second, microsecond, t) ← seconds? t
    let offset ← offset? t
    if hour ≤ 23 ∧ minute ≤ 59 then
      some ⟨year, month, day, hour, minute, second, microsecond, offset⟩
    else none

/-! ## 3. From a clock -/

/-- The year, month and day so many days after the first of March of the year zero, in the
calendar of 400 years with 146097 days. -/
def dateOfDays (days : Nat) : Nat × Nat × Nat :=
  let cycle := days / 146097
  let day := days % 146097
  let year := (day - day / 1460 + day / 36524 - day / 146096) / 365
  let day := day - (365 * year + year / 4 - year / 100)
  let month := (5 * day + 2) / 153
  let day := day - (153 * month + 2) / 5 + 1
  if month < 10 then (400 * cycle + year, month + 3, day)
  else (400 * cycle + year + 1, month - 9, day)

/-- The days from the first of March of the year zero to the first of January 1970. -/
def daysToEpoch : Nat := 719468

/-- The moment so many seconds and microseconds after the start of 1970 in universal time. -/
def ofUnix (seconds microseconds : Nat) : Timestamp :=
  let (year, month, day) := dateOfDays (daysToEpoch + seconds / 86400)
  ⟨year, month, day, seconds / 3600 % 24, seconds / 60 % 60, seconds % 60, microseconds, some 0⟩

/-! ## 4. Decoding -/

/-- Decodes a timestamp. -/
def decode : Decoder Timestamp
  | .text t =>
    match ofText? t with
    | some s => .valid s
    | none => .broken (.timestampForm (if t.length < 10 then "input is too short"
        else "invalid character in year"))
  | _ => .broken .timestamp

end Timestamp
end ThreatScan
