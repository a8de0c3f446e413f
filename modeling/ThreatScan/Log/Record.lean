/-
# Log records

A record is written as one JSON object or as a line of text, in either case without secrets.
`Setup` says which of the two, and from which level on.
-/
import ThreatScan.Json.Printer
import ThreatScan.Log.Event
import ThreatScan.Log.Redaction
import ThreatScan.Log.Template
import ThreatScan.Pattern.Occurrence

namespace ThreatScan

/-- A message with its origin; perhaps with an error attached. -/
structure LogRecord where
  time : Text
  level : Text
  speaker : Text
  message : Text
  failure : Option Text := none
deriving DecidableEq, Repr

namespace LogRecord

/-- The record of an event. -/
def ofEvent (time : Text) (e : Event) : LogRecord where
  time
  level := e.importance.name
  speaker := e.speaker
  message := e.message

/-! ## 1. As JSON -/

/-- The members of the object. -/
def toJson (r : LogRecord) : Json :=
  .record ([("timestamp", .text r.time), ("level", .text r.level), ("logger", .text r.speaker),
    ("message", .text (Redaction.redact r.message))] ++
    match r.failure with
    | some reason => [("exception", .text (Redaction.redact reason))]
    | none => [])

/-- The record on one line of ASCII. -/
def jsonText (r : LogRecord) : Text := Json.print .line r.toJson

/-! ## 2. As text -/

/-- The usual layout of a line. -/
def layout : Text := "%(asctime)s [%(levelname)s] %(name)s: %(message)s"

/-- The number of a level name. -/
def levelNumber (name : Text) : Int :=
  ((([("DEBUG", 10), ("INFO", 20), ("WARNING", 30), ("ERROR", 40), ("CRITICAL", 50)] :
    List (Text × Int))).lookup name).getD 0

/-- The layout that the empty one stands for. -/
def bareLayout : Text := "%(message)s"

/-- A letter that says how a value is written, in any case, or a percent sign. -/
def formLetter : CharClass := .lowerWithin [(37, 37), (97, 97), (99, 103), (105, 105), (111, 111),
  (114, 115), (117, 117), (120, 120)]

/-- A size: an asterisk or digits. -/
def size : Pattern := .alt (.exact "*") (.someOf (.within [(48, 57)]))

/-- A place with a name, such as `%(message)s`. -/
def namedPlace : Pattern := .sequence [.exact "%(", .someOf Redaction.wordChar, .exact ")",
  .anyOf (.within [(32, 32), (35, 35), (43, 43), (45, 45), (48, 48)]), .alt size .empty,
  .alt (.seq (.exact ".") size) .empty, .one formLetter]

/-- What a layout may name. -/
def members (r : LogRecord) : List (Text × Json) :=
  [("asctime", .text r.time), ("levelname", .text r.level), ("name", .text r.speaker),
    ("message", .text r.message), ("levelno", .int (levelNumber r.level))]

/-- An attached error on a line of its own. -/
def failureText (line : Text) : Option Text → Text
  | none => line
  | some reason =>
    (if line.getLast? = some 10 then line else line ++ [10]) ++ "RuntimeError" ++
      (if reason.isEmpty then [] else (": " : Text) ++ reason)

/-- The record in a layout, with its secrets.  A layout has to name something, and only what a
record has. -/
def plainText (layout : Text) (r : LogRecord) : Except Failure Text :=
  let layout := if layout.isEmpty then bareLayout else layout
  if !namedPlace.foundIn layout then .error .outOfDomain
  else match Template.fill layout (.ofMembers r.members) with
    | .ok line => .ok (failureText line r.failure)
    | .error .unknownName => .error .outOfDomain
    | .error f => .error f

/-- The record in a layout. -/
def text (layout : Text) (r : LogRecord) : Except Failure Text :=
  (plainText layout r).map Redaction.redact

end LogRecord

/-! ## 3. Setting up -/

/-- How a log is written. -/
inductive LogFormat where
  | json
  | text
deriving DecidableEq, Repr, Inhabited

namespace LogFormat

/-- The name of a format. -/
def name : LogFormat → Text
  | .json => "json"
  | .text => "text"

/-- The format of a name. -/
def ofName? (t : Text) : Option LogFormat := [json, text].find? fun f => f.name = t

end LogFormat

/-- Which records are written, and how. -/
structure LogSetup where
  level : Nat
  format : LogFormat
deriving DecidableEq, Repr

namespace LogSetup

/-- A name in capitals.  Beside the letters of ASCII there are four characters whose capitals occur
in the name of a level: the dotless i, the long s, and two ligatures for st. -/
def capitals (name : Text) : Text :=
  name.flatMap fun c =>
    if c = 0x131 then [73]
    else if c = 0x17F then [83]
    else if c = 0xFB05 ∨ c = 0xFB06 then [83, 84]
    else [Text.upperAscii c]

/-- The number of a level given by name in any case.  An unknown name stands for INFO, but two
names are known for something else and are refused. -/
def levelOf (name : Text) : Except Failure Nat :=
  let name := capitals name
  let known : List (Text × Nat) := [("NOTSET", 0), ("DEBUG", 10), ("INFO", 20), ("WARN", 30),
    ("WARNING", 30), ("ERROR", 40), ("CRITICAL", 50), ("FATAL", 50)]
  if name = "BASIC_FORMAT" then .error .outOfDomain
  else if name = "_STYLES" then .error .mismatch
  else .ok ((known.lookup name).getD 20)

/-- The set-up for a level and a format; every format but `json` is text. -/
def ofNames (level format : Text) : Except Failure LogSetup :=
  (levelOf level).map fun n => ⟨n, if format = "json" then .json else .text⟩

/-- The name of the level. -/
def levelName (s : LogSetup) : Text :=
  if s.level = 0 then "NOTSET" else if s.level = 10 then "DEBUG" else if s.level = 20 then "INFO"
  else if s.level = 30 then "WARNING" else if s.level = 40 then "ERROR" else "CRITICAL"

/-- The least level that is written; if none is set it is WARNING. -/
def threshold (s : LogSetup) : Nat := if s.level = 0 then 30 else s.level

/-- The text of a record. -/
def render (s : LogSetup) (r : LogRecord) : Text :=
  match s.format with
  | .json => r.jsonText
  | .text => match r.text LogRecord.layout with
    | .ok t => t
    | .error _ => []

/-- What is written about events at a time, every record ending its line. -/
def output (s : LogSetup) (time : Text) (events : List Event) : Text :=
  (events.filter fun e => s.threshold ≤ e.importance.rank).flatMap fun e =>
    s.render (.ofEvent time e) ++ [10]

end LogSetup
end ThreatScan
