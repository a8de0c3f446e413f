/-
# Message templates

A log message is a template with a place for each argument: a percent sign, perhaps the name of
a member in parentheses, flags, a width, a precision and a letter that says how the argument is
written.  `fill` writes the arguments in; it fails if they do not fit the template.
-/
import ThreatScan.Failure
import ThreatScan.Json.Basic

namespace ThreatScan
namespace Template

/-! ## 1. Values as texts -/

mutual

/-- A value as it would be written in a program; `ascii` escapes all but ASCII. -/
def literal (ascii : Bool) : Json → Text
  | .null => "None"
  | .bool true => "True"
  | .bool false => "False"
  | .int n => Text.ofInt n
  | .float x => Decimal.plain.render x
  | .text t => if ascii then Text.quotedAscii t else Text.quoted t
  | .array [] => "[]"
  | .array (x :: xs) => 91 :: literal ascii x ++ literalItems ascii xs ++ [93]
  | .object [] => [123, 125]
  | .object ((k, x) :: ms) =>
    123 :: Text.quoted k ++ [58, 32] ++ literal ascii x ++ literalMembers ascii ms ++ [125]

/-- Further items of a list. -/
def literalItems (ascii : Bool) : List Json → Text
  | [] => []
  | x :: xs => 44 :: 32 :: literal ascii x ++ literalItems ascii xs

/-- Further members of an object. -/
def literalMembers (ascii : Bool) : List (Text × Json) → Text
  | [] => []
  | (k, x) :: ms =>
    44 :: 32 :: Text.quoted k ++ [58, 32] ++ literal ascii x ++ literalMembers ascii ms

end

/-- A value as a reader sees it: a text as it is, anything else as in a program. -/
def display : Json → Text
  | .text t => t
  | j => literal false j

/-! ## 2. Places -/

/-- How an argument is written. -/
structure Place where
  left : Bool := false
  plus : Bool := false
  space : Bool := false
  alternate : Bool := false
  zero : Bool := false
  width : Nat := 0
  precision : Option Nat := none
deriving DecidableEq, Repr

/-- Puts a text into a field of a width; zeros go between the sign and the digits. -/
def Place.fit (p : Place) (numeric : Bool) (sign digits : Text) : Text :=
  let n := p.width - sign.length
  if p.left then sign ++ Text.padRight n digits
  else if p.zero && numeric then sign ++ Text.padLeft n 48 digits
  else Text.padLeft p.width 32 (sign ++ digits)

/-- The sign of a number. -/
def Place.sign (p : Place) (negative : Bool) : Text :=
  if negative then [45] else if p.plus then [43] else if p.space then [32] else []

/-- The capitals of the letters of ASCII. -/
def capitals (t : Text) : Text := t.map fun c => if 97 ≤ c ∧ c ≤ 122 then c - 32 else c

/-- The digits of a number to a base from 2 to 16. -/
def baseDigits (base n : Nat) : Text := (Nat.toDigits base n).map Char.toNat

/-- An integer in a base, with a mark in front in the alternate form. -/
def Place.integer (p : Place) (base : Nat) (mark : Text) (n : Int) : Text :=
  let ds := baseDigits base n.natAbs
  let ds := Text.padLeft (p.precision.getD 0) 48 ds
  p.fit true (p.sign (n < 0) ++ if p.alternate then mark else []) ds

/-- A number written by a function on the magnitude of rational numbers. -/
def Place.number (p : Place) (magnitude : Rat → Text) (x : Binary64) : Text :=
  let digits : Text := match x with
    | .nan => "nan"
    | .inf _ => "inf"
    | x => magnitude (Rounding.magnitude (x.toRat?.getD 0))
  p.fit true (p.sign x.isNegative) digits

/-- A text, cut to the precision. -/
def Place.text (p : Place) (t : Text) : Text :=
  p.fit false [] (match p.precision with
    | some n => t.take n
    | none => t)

/-! ## 3. Arguments -/

/-- The integer that an argument stands for; a number loses its fraction if `truncating`. -/
def integerOf (truncating : Bool) : Json → Except Failure Int
  | .int n => .ok n
  | .bool b => .ok (if b then 1 else 0)
  | .float .nan => if truncating then .error .outOfDomain else .error .mismatch
  | .float (.inf _) => if truncating then .error .overflow else .error .mismatch
  | .float x => if truncating then .ok x.truncate else .error .mismatch
  | _ => .error .mismatch

/-- The number that an argument stands for. -/
def numberOf : Json → Except Failure Binary64
  | .int n => .ok (Binary64.ofInt n)
  | .bool b => .ok (if b then 1 else 0)
  | .float x => .ok x
  | _ => .error .mismatch

/-- The character that an argument stands for. -/
def characterOf : Json → Except Failure Text
  | .int n => if 0 ≤ n ∧ n < 0x110000 then .ok [n.toNat] else .error .overflow
  | .bool b => .ok [if b then 1 else 0]
  | .text [c] => .ok [c]
  | _ => .error .mismatch

/-- The digits of a number, in the alternate form with a point even where no fraction follows. -/
def Place.point (p : Place) (t : Text) : Text :=
  if p.alternate && !t.contains 46 then
    t.takeWhile (· != 101) ++ [46] ++ t.dropWhile (· != 101)
  else t

/-- A number in one of the three notations. -/
def Place.float (p : Place) (letter : CodePoint) (x : Binary64) : Text :=
  let digits := p.precision.getD 6
  if letter = 102 ∨ letter = 70 then p.number (fun q => p.point (Decimal.fixedMagnitude digits q)) x
  else if letter = 101 ∨ letter = 69 then
    p.number (fun q => p.point (Decimal.scientificMagnitude digits q)) x
  else p.number (Decimal.generalMagnitude p.alternate digits) x

/-- An argument written as its letter says. -/
def Place.write (p : Place) (letter : CodePoint) (j : Json) : Except Failure Text :=
  if letter = 115 then .ok (p.text (display j))
  else if letter = 114 then .ok (p.text (literal false j))
  else if letter = 97 then .ok (p.text (literal true j))
  else if letter = 99 then (characterOf j).map fun t => p.fit false [] t
  else if letter = 100 ∨ letter = 105 ∨ letter = 117 then (integerOf true j).map (p.integer 10 [])
  else if letter = 111 then (integerOf false j).map (p.integer 8 "0o")
  else if letter = 120 then (integerOf false j).map (p.integer 16 "0x")
  else if letter = 88 then (integerOf false j).map fun n => capitals (p.integer 16 "0x" n)
  else if letter = 101 ∨ letter = 102 ∨ letter = 103 then (numberOf j).map (p.float letter)
  else if letter = 69 ∨ letter = 70 ∨ letter = 71 then
    (numberOf j).map fun x => capitals (p.float letter x)
  else .error .outOfDomain

/-! ## 4. Reading a place -/

/-- What a template is filled with: values in order, or the members of one object.  The value of
the last name that was read, at first the object itself, can be had once. -/
inductive Arguments where
  | ordered (values : List Json)
  | named (members : List (Text × Json)) (current : Option Json)

namespace Arguments

/-- The members of an object as arguments. -/
def ofMembers (ms : List (Text × Json)) : Arguments := .named ms (some (.object ms))

/-- The next value in order, and the arguments after it. -/
def next : Arguments → Except Failure (Json × Arguments)
  | .ordered (j :: js) => .ok (j, .ordered js)
  | .named ms (some j) => .ok (j, .named ms none)
  | .ordered [] | .named _ none => .error .mismatch

/-- The members that names refer to; values in order have none. -/
def members : Arguments → Except Failure (List (Text × Json))
  | .ordered _ => .error .mismatch
  | .named ms _ => .ok ms

/-- The members with the one of a name as the next value. -/
def select (ms : List (Text × Json)) (name : Text) : Except Failure Arguments :=
  match ms.lookup name with
  | some j => .ok (.named ms (some j))
  | none => .error .unknownName

end Arguments

/-- The flags at the start of a text, and what follows. -/
def flags : Place → Text → Place × Text
  | p, [] => (p, [])
  | p, c :: t =>
    if c = 45 then flags { p with left := true } t
    else if c = 43 then flags { p with plus := true } t
    else if c = 32 then flags { p with space := true } t
    else if c = 35 then flags { p with alternate := true } t
    else if c = 48 then flags { p with zero := true } t
    else (p, c :: t)

/-- The number that digits write at the start of a text, and what follows. -/
def numberAt (t : Text) : Nat × Text :=
  let isDigit := fun (c : CodePoint) => 48 ≤ c && c ≤ 57
  ((t.takeWhile isDigit).foldl (fun n c => 10 * n + (c - 48)) 0, t.dropWhile isDigit)

/-- A number that is written out or, for an asterisk, taken from the arguments. -/
def sizeAt (args : Arguments) : Text → Except Failure (Int × Text × Arguments)
  | 42 :: t => do
    let (j, args) ← args.next
    match j with
    | .int n => .ok (n, t, args)
    | .bool b => .ok (if b then 1 else 0, t, args)
    | _ => .error .mismatch
  | t =>
    let (n, t) := numberAt t
    .ok (n, t, args)

/-- The name in parentheses at the start of a text, and what follows; parentheses nest. -/
def memberName : Nat → Text → Text → Except Failure (Text × Text)
  | _, _, [] => .error .outOfDomain
  | depth, name, c :: t =>
    if c = 41 ∧ depth = 0 then .ok (name.reverse, t)
    else
      memberName (if c = 40 then depth + 1 else if c = 41 then depth - 1 else depth) (c :: name) t

/-- The arguments for a place that may start with a name in parentheses, and what follows it. -/
def Arguments.forName (args : Arguments) : Text → Except Failure (Arguments × Text)
  | 40 :: t => do
    let ms ← args.members
    let (name, t) ← memberName 0 [] t
    pure (← select ms name, t)
  | t => .ok (args, t)

/-- A place after its percent sign: its text, what follows it, and the arguments left. -/
def place (args : Arguments) (t : Text) : Except Failure (Text × Text × Arguments) := do
  let (args, t) ← args.forName t
  let (p, t) := flags {} t
  let (width, t, args) ← sizeAt args t
  let p := { p with left := p.left || width < 0, width := width.natAbs }
  let (p, t, args) ← match t with
    | 46 :: t => (sizeAt args t).map fun r => ({ p with precision := some r.1.toNat }, r.2.1, r.2.2)
    | t => .ok (p, t, args)
  let t := match t with
    | c :: t => if c = 104 ∨ c = 108 ∨ c = 76 then t else c :: t
    | [] => []
  match t with
  | [] => .error .outOfDomain
  | 37 :: t => .ok ([37], t, args)
  | letter :: t =>
    let (j, args) ← args.next
    return (← p.write letter j, t, args)

/-! ## 5. Filling a template -/

/-- Fills a template, `done` being the text so far, reversed; the fuel is at least the length of
the template. -/
def fillFrom : Nat → Arguments → Text → Text → Except Failure Text
  | _, .ordered (_ :: _), [], _ => .error .mismatch
  | _, _, [], done => .ok done.reverse
  | 0, _, _ :: _, done => .ok done.reverse
  | fuel + 1, args, 37 :: t, done => do
    let (text, t, args) ← place args t
    fillFrom fuel args t (text.reverse ++ done)
  | fuel + 1, args, c :: t, done => fillFrom fuel args t (c :: done)

/-- The template with its arguments. -/
def fill (template : Text) (args : Arguments) : Except Failure Text :=
  fillFrom template.length args template []

/-- The message of a template and a list of arguments: without any, the template stands for
itself; one object with members gives names to its values. -/
def message (template : Text) : List Json → Except Failure Text
  | [] => .ok template
  | [.object (m :: ms)] => fill template (.ofMembers (m :: ms))
  | args => fill template (.ordered args)

end Template
end ThreatScan
