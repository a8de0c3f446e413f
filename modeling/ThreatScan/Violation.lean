/-
# Violations

Data from outside is checked against the records that it should fill.  A `Violation` says where
a value stands and which rule it breaks; `Rule.kind` and `Rule.message` give the rule its short
name and its sentence.  `Checked` collects the violations of several fields in their order.
-/
import ThreatScan.Text.Basic

namespace ThreatScan

/-! ## 1. Places and rules -/

/-- A step into a value: to a member of an object or to an item of a list. -/
inductive Step where
  | field (name : Text)
  | index (n : Nat)
deriving DecidableEq, Repr

/-- What a value has to be. -/
inductive Rule where
  | missing
  | atLeast (bound : Int)
  | atMost (bound : Int)
  | choice (names : List Text)
  | text
  | list
  | record (name : Text)
  | boolean
  | booleanWord
  | integer
  | integerNumeral
  | whole
  | numeralSize
  | finite
  | number
  | numberNumeral
  | timestamp
  | timestampForm (reason : Text)
  | extra
  | value (reason : Text)
deriving DecidableEq, Repr

namespace Rule

/-- The short name of a rule. -/
def kind : Rule → Text
  | .missing => "missing"
  | .atLeast _ => "greater_than_equal"
  | .atMost _ => "less_than_equal"
  | .choice _ => "enum"
  | .text => "string_type"
  | .list => "list_type"
  | .record _ => "model_type"
  | .boolean => "bool_type"
  | .booleanWord => "bool_parsing"
  | .integer => "int_type"
  | .integerNumeral => "int_parsing"
  | .whole => "int_from_float"
  | .numeralSize => "int_parsing_size"
  | .finite => "finite_number"
  | .number => "float_type"
  | .numberNumeral => "float_parsing"
  | .timestamp => "datetime_type"
  | .timestampForm _ => "datetime_from_date_parsing"
  | .extra => "extra_forbidden"
  | .value _ => "value_error"

/-- A name in quotation marks. -/
def quoted (t : Text) : Text := 39 :: t ++ [39]

/-- The names in quotation marks, with commas and a final `or`. -/
def alternatives : List Text → Text
  | [] => []
  | [t] => quoted t
  | [t, u] => quoted t ++ " or " ++ quoted u
  | t :: ts => quoted t ++ ", " ++ alternatives ts

/-- The sentence of a rule. -/
def message : Rule → Text
  | .missing => "Field required"
  | .atLeast b => "Input should be greater than or equal to " ++ Text.ofInt b
  | .atMost b => "Input should be less than or equal to " ++ Text.ofInt b
  | .choice names => "Input should be " ++ alternatives names
  | .text => "Input should be a valid string"
  | .list => "Input should be a valid list"
  | .record name => "Input should be a valid dictionary or instance of " ++ name
  | .boolean => "Input should be a valid boolean"
  | .booleanWord => "Input should be a valid boolean, unable to interpret input"
  | .integer => "Input should be a valid integer"
  | .integerNumeral =>
    "Input should be a valid integer, unable to parse string as an integer"
  | .whole => "Input should be a valid integer, got a number with a fractional part"
  | .numeralSize => "Unable to parse input string as an integer, exceeded maximum size"
  | .finite => "Input should be a finite number"
  | .number => "Input should be a valid number"
  | .numberNumeral => "Input should be a valid number, unable to parse string as a number"
  | .timestamp => "Input should be a valid datetime"
  | .timestampForm reason => "Input should be a valid datetime or date, " ++ reason
  | .extra => "Extra inputs are not permitted"
  | .value reason => "Value error, " ++ reason

end Rule

/-- A broken rule and the place of the value that breaks it. -/
structure Violation where
  place : List Step
  rule : Rule
deriving DecidableEq, Repr

namespace Violation

/-- A violation at a member. -/
def atField (name : Text) (rule : Rule) : Violation := ⟨[.field name], rule⟩

/-- The violation seen from one step further out. -/
def within (step : Step) (v : Violation) : Violation := { v with place := step :: v.place }

end Violation

/-! ## 2. Checked values -/

/-- A value, or the violations that prevent one. -/
inductive Checked (α : Type) where
  | valid (a : α)
  | invalid (violations : List Violation)
deriving Repr

namespace Checked

/-- A value that breaks one rule. -/
def broken {α : Type} (rule : Rule) : Checked α := .invalid [⟨[], rule⟩]

/-- Applies a function to a valid value. -/
def map {α β : Type} (f : α → β) : Checked α → Checked β
  | .valid a => .valid (f a)
  | .invalid vs => .invalid vs

/-- Applies a checked function to a checked value; the violations of both add up. -/
def seq {α β : Type} : Checked (α → β) → Checked α → Checked β
  | .valid f, .valid a => .valid (f a)
  | .valid _, .invalid vs => .invalid vs
  | .invalid vs, .valid _ => .invalid vs
  | .invalid vs, .invalid ws => .invalid (vs ++ ws)

instance : Functor Checked := ⟨map, fun a => map fun _ => a⟩

instance : Seq Checked := ⟨fun f a => seq f (a ())⟩

/-- Checks further what has been checked. -/
def andThen {α β : Type} (a : Checked α) (f : α → Checked β) : Checked β :=
  match a with
  | .valid a => f a
  | .invalid vs => .invalid vs

/-- The same, seen from one step further out. -/
def within {α : Type} (step : Step) : Checked α → Checked α
  | .valid a => .valid a
  | .invalid vs => .invalid (vs.map (·.within step))

/-- The value, if it is valid. -/
def toOption {α : Type} : Checked α → Option α
  | .valid a => some a
  | .invalid _ => none

/-- The violations, if there are any. -/
def violations {α : Type} : Checked α → List Violation
  | .valid _ => []
  | .invalid vs => vs

/-- A value with the violations found in it. -/
def ofViolations {α : Type} (a : α) : List Violation → Checked α
  | [] => .valid a
  | v :: vs => .invalid (v :: vs)

end Checked
end ThreatScan
