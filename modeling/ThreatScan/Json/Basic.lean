/-
# Untyped data

`Json` is data as it arrives from outside and as a report leaves: the values of a JSON
document.  An integer and a number with a fraction stay apart, an object keeps the order of its
members, and a text may hold any code point.
-/
import ThreatScan.Number.Binary64
import ThreatScan.Text.Basic

namespace ThreatScan

/-- A JSON value. -/
inductive Json where
  | null
  | bool (b : Bool)
  | int (n : Int)
  | float (x : Binary64)
  | text (t : Text)
  | array (items : List Json)
  | object (members : List (Text × Json))
deriving Inhabited

namespace Json

/-- The member of an object with the given name. -/
def get? (name : Text) : Json → Option Json
  | .object members => members.lookup name
  | _ => none

/-- A text given as a string. -/
def string (s : String) : Json := .text s

/-- A value or `null`. -/
def optional {α : Type} (f : α → Json) : Option α → Json
  | none => .null
  | some a => f a

/-- A list of texts. -/
def texts (ts : List Text) : Json := .array (ts.map .text)

/-- An object with its member names given as strings. -/
def record (members : List (String × Json)) : Json :=
  .object (members.map fun m => (Text.ofString m.1, m.2))

end Json
end ThreatScan
