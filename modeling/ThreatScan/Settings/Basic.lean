/-
# Settings

What a user can set, with its defaults.  Settings are decoded from named values: each is checked
by itself, and a name that is no setting is refused.
-/
import ThreatScan.Data.Decode
import ThreatScan.Failure
import ThreatScan.Log.Record

namespace ThreatScan

/-- The settings. -/
structure Settings where
  secondaryEnabled : Bool := true
  /-- How many seconds the secondary scorer has. -/
  secondaryTimeout : Binary64 := 5
  /-- The entropy above which a content counts as encrypted. -/
  entropyThreshold : Binary64 := 7
  hashDisplayLength : Int := 16
  scanMaxContentBytes : Int := 10485760
  scoreSeed : Option Int := none
  logLevel : Text := "INFO"
  logFormat : LogFormat := .json
deriving DecidableEq, Repr

namespace Settings

open Decode

/-! ## 1. Rules -/

/-- A positive number of seconds. -/
def timeout : Decoder Binary64 := fun j =>
  (number j).andThen fun x =>
    if x.atMost 0 then .broken (.value "secondary_timeout must be positive") else .valid x

/-- A length that a digest can have. -/
def digestLength : Decoder Int := fun j =>
  (integer j).andThen fun n =>
    if 1 ≤ n ∧ n ≤ 64 then .valid n
    else .broken (.value "hash_display_length must be between 1 and 64")

/-- The name of a log format in any case. -/
def logFormatName : Decoder LogFormat := fun j =>
  (text j).andThen fun t =>
    match LogFormat.ofName? (Text.lowercase t) with
    | some f => .valid f
    | none => .broken (.value "log_format must be 'json' or 'text'")

/-! ## 2. Decoding -/

/-- The names of the settings. -/
def names : List Text := ["secondary_enabled", "secondary_timeout", "entropy_threshold",
  "hash_display_length", "scan_max_content_bytes", "score_seed", "log_level", "log_format"]

/-- The settings among named values. -/
def known (ms : Members) : Checked Settings :=
  Settings.mk <$> defaulted "secondary_enabled" true boolean ms
    <*> defaulted "secondary_timeout" 5 timeout ms
    <*> defaulted "entropy_threshold" 7 number ms
    <*> defaulted "hash_display_length" 16 digestLength ms
    <*> defaulted "scan_max_content_bytes" 10485760 integer ms
    <*> defaulted "score_seed" none (optional integer) ms
    <*> defaulted "log_level" "INFO" text ms
    <*> defaulted "log_format" .json logFormatName ms

/-- The names that are no settings. -/
def unknown (ms : Members) : List Violation :=
  (ms.filter fun m => !names.contains m.1).map fun m => .atField m.1 .extra

/-- The settings that named values give. -/
def ofMembers (ms : Members) : Except Failure Settings :=
  match (fun s _ => s) <$> known ms <*> .ofViolations () (unknown ms) with
  | .valid s => .ok s
  | .invalid vs => .error (.invalid vs)

end Settings
end ThreatScan
