/-
# Reading JSON

`Json.parse?` reads one document.  Escaped surrogates that form a pair stand for one code
point, and any other escaped surrogate for itself.  A number without fraction and exponent is
an integer.

The functions that nest take a measure of fuel; each step uses up a character of the input, so
its length is enough.
-/
import ThreatScan.Json.Basic
import ThreatScan.Number.Decimal

namespace ThreatScan
namespace Json

/-! ## 1. Texts -/

/-- The value of a hexadecimal digit. -/
def hexValue? (c : CodePoint) : Option Nat :=
  if 48 ≤ c ∧ c ≤ 57 then some (c - 48)
  else if 97 ≤ c ∧ c ≤ 102 then some (c - 87)
  else if 65 ≤ c ∧ c ≤ 70 then some (c - 55)
  else none

/-- The number that four hexadecimal digits write. -/
def hexNumber? (a b c d : CodePoint) : Option Nat := do
  return (((← hexValue? a) * 16 + (← hexValue? b)) * 16 + (← hexValue? c)) * 16 + (← hexValue? d)

/-- Puts a code unit in front of a reversed text, which it may complete to a pair. -/
def pushUnit (u : Nat) : Text → Text
  | [] => [u]
  | c :: t =>
    if 0xDC00 ≤ u ∧ u ≤ 0xDFFF ∧ 0xD800 ≤ c ∧ c ≤ 0xDBFF then
      (0x10000 + (c - 0xD800) * 0x400 + (u - 0xDC00)) :: t
    else u :: c :: t

/-- The character of an escape by one letter. -/
def letterEscape? (c : CodePoint) : Option CodePoint :=
  [(34, 34), (92, 92), (47, 47), (98, 8), (102, 12), (110, 10), (114, 13), (116, 9)].lookup c

/-- The rest of a quoted text after what is `done`, reversed, and what follows its end. -/
def parseText? : Text → Text → Option (Text × Text)
  | done, 34 :: t => some (done.reverse, t)
  | done, 92 :: 117 :: a :: b :: c :: d :: t =>
    match hexNumber? a b c d with
    | some u => parseText? (pushUnit u done) t
    | none => none
  | done, 92 :: e :: t =>
    match letterEscape? e with
    | some c => parseText? (c :: done) t
    | none => none
  | done, c :: t => if c < 32 then none else parseText? (c :: done) t
  | _, [] => none

/-! ## 2. Numbers -/

/-- A decimal digit. -/
def isDigit (c : CodePoint) : Bool := 48 ≤ c && c ≤ 57

/-- The number that decimal digits write. -/
def decimalValue (ds : Text) : Nat := ds.foldl (fun n c => 10 * n + (c - 48)) 0

/-- The digits in front, and what follows. -/
def digitsOf (t : Text) : Text × Text := (t.takeWhile isDigit, t.dropWhile isDigit)

/-- The exponent of a number, if there is one, and what follows. -/
def parseExponent? : Text → Option (Option Int × Text)
  | [] => some (none, [])
  | c :: t =>
    if c = 101 ∨ c = 69 then
      let (negative, t) := match t with
        | 45 :: t => (true, t)
        | 43 :: t => (false, t)
        | t => (false, t)
      match digitsOf t with
      | ([], _) => none
      | (ds, t) => some (some (if negative then -(decimalValue ds : Int) else decimalValue ds), t)
    else some (none, c :: t)

/-- A number, its sign already read. -/
def parseMagnitude? (negative : Bool) (t : Text) : Option (Json × Text) :=
  match digitsOf t with
  | ([], _) => none
  | (whole, t) =>
    let fraction? := match t with
      | 46 :: t => match digitsOf t with
        | ([], _) => none
        | (ds, t) => some (some ds, t)
      | t => some (none, t)
    match fraction? with
    | none => none
    | some (fraction, t) =>
      match parseExponent? t with
      | none => none
      | some (exponent, t) =>
        if fraction.isNone && exponent.isNone then
          some (.int (if negative then -(decimalValue whole : Int) else decimalValue whole), t)
        else
          let ds := fraction.getD []
          some (.float (Decimal.ofDecimal negative (decimalValue (whole ++ ds))
            (exponent.getD 0 - ds.length)), t)

/-- A number. -/
def parseNumber? : Text → Option (Json × Text)
  | 45 :: t => parseMagnitude? true t
  | t => parseMagnitude? false t

/-! ## 3. Documents -/

/-- White space of a document. -/
def isSpace (c : CodePoint) : Bool := c = 32 || c = 10 || c = 13 || c = 9

/-- The text without the white space in front. -/
def skipSpace (t : Text) : Text := t.dropWhile isSpace

mutual

/-- A value and what follows it. -/
def parseValue? : Nat → Text → Option (Json × Text)
  | 0, _ => none
  | fuel + 1, t =>
    match skipSpace t with
    | 34 :: t => (parseText? [] t).map fun r => (.text r.1, r.2)
    | 91 :: t =>
      match skipSpace t with
      | 93 :: t => some (.array [], t)
      | t => parseItems? fuel t []
    | 123 :: t =>
      match skipSpace t with
      | 125 :: t => some (.object [], t)
      | t => parseMembers? fuel t []
    | 110 :: 117 :: 108 :: 108 :: t => some (.null, t)
    | 116 :: 114 :: 117 :: 101 :: t => some (.bool true, t)
    | 102 :: 97 :: 108 :: 115 :: 101 :: t => some (.bool false, t)
    | t => parseNumber? t

/-- The items of an array after those `done`, reversed. -/
def parseItems? : Nat → Text → List Json → Option (Json × Text)
  | 0, _, _ => none
  | fuel + 1, t, done =>
    match parseValue? fuel t with
    | none => none
    | some (x, t) =>
      match skipSpace t with
      | 44 :: t => parseItems? fuel t (x :: done)
      | 93 :: t => some (.array (x :: done).reverse, t)
      | _ => none

/-- The members of an object after those `done`, reversed. -/
def parseMembers? : Nat → Text → List (Text × Json) → Option (Json × Text)
  | 0, _, _ => none
  | fuel + 1, t, done =>
    match skipSpace t with
    | 34 :: t =>
      match parseText? [] t with
      | none => none
      | some (k, t) =>
        match skipSpace t with
        | 58 :: t =>
          match parseValue? fuel t with
          | none => none
          | some (x, t) =>
            match skipSpace t with
            | 44 :: t => parseMembers? fuel t ((k, x) :: done)
            | 125 :: t => some (.object ((k, x) :: done).reverse, t)
            | _ => none
        | _ => none
    | _ => none

end

/-- The document that a text holds, with nothing but white space around it. -/
def parse? (t : Text) : Option Json :=
  match parseValue? (2 * t.length + 1) t with
  | some (j, rest) => if skipSpace rest = [] then some j else none
  | none => none

end Json
end ThreatScan
