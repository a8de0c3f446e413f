/-
# Failures

Every way in which a call can fail, by its cause.  `Failure.message` words the failures that
the library itself reports; those of input that does not fit a record are lists of violations.
-/
import ThreatScan.Violation
import ThreatScan.Number.Decimal
import ThreatScan.Text.Quoted

namespace ThreatScan

/-- Why a path cannot be read or written. -/
inductive FileError where
  | missing
  | notDirectory
  | isDirectory
deriving DecidableEq, Repr

namespace FileError

/-- The wording of the operating system, with the path in quotation marks. -/
def message (path : Text) : FileError → Text
  | .missing => "[Errno 2] No such file or directory: " ++ Text.quoted path
  | .notDirectory => "[Errno 20] Not a directory: " ++ Text.quoted path
  | .isDirectory => "[Errno 21] Is a directory: " ++ Text.quoted path

end FileError

/-- The cause of a failure. -/
inductive Failure where
  /-- A share of the blend is negative. -/
  | negativeShare (shares : List Binary64)
  /-- The shares of the blend do not add up to one. -/
  | shareSum (sum : Binary64)
  /-- The content has more bytes than the limit allows. -/
  | tooLarge (label : Text) (size : Nat) (limit : Int)
  /-- The content holds a surrogate and so has no bytes to digest. -/
  | unhashable
  /-- The bytes are no UTF-8 from the given offset on. -/
  | undecodable (source : Text) (offset : Nat)
  /-- The file cannot be read. -/
  | unreadable (path : Text) (cause : FileError)
  /-- The operating system refuses a path. -/
  | refusedPath (path : Text) (cause : FileError)
  /-- The settings file is no UTF-8. -/
  | unreadableSettings
  /-- A finding whose weight is negative or no number. -/
  | refusedWeight (weight : Binary64)
  /-- Input that does not fit its record. -/
  | invalid (violations : List Violation)
  /-- A part of the program broke down. -/
  | breakdown (reason : Text)
  /-- A value outside the domain of a function. -/
  | outOfDomain
  /-- Values of the wrong kind or number. -/
  | mismatch
  /-- A name that is not there. -/
  | unknownName
  /-- A number too large to become an integer. -/
  | overflow
  /-- A report with a surrogate in one of its texts has no document. -/
  | unserializable
  /-- The task was cancelled from outside. -/
  | cancelled
  /-- No failure in fact: what is waited for never comes. -/
  | unending
deriving DecidableEq, Repr

namespace Failure

/-- Numbers in parentheses. -/
def tuple (xs : List Binary64) : Text :=
  40 :: Text.join ", " (xs.map Decimal.plain.render) ++ [41]

/-- The wording of a failure; some carry none. -/
def message : Failure → Text
  | .negativeShare shares => "weights must be non-negative, got " ++ tuple shares
  | .shareSum sum => "weights must sum to 1.0, got " ++ Decimal.fixed 4 sum
  | .tooLarge label size limit =>
    label ++ " is " ++ Text.ofNat size ++ " bytes, limit is " ++ Text.ofInt limit
  | .unhashable => "content cannot be encoded for hashing: surrogates not allowed"
  | .undecodable source offset =>
    source ++ " is not valid UTF-8 text (byte " ++ Text.ofNat offset ++ ")"
  | .unreadable path cause => "cannot read " ++ path ++ ": " ++ cause.message path
  | .refusedPath path cause => cause.message path
  | .refusedWeight weight =>
    "1 validation error for Finding\nweight\n  " ++ (Rule.atLeast 0).message ++
      " [type=" ++ (Rule.atLeast 0).kind ++ ", input_value=" ++ Decimal.plain.render weight ++
      ", input_type=float]"
  | .breakdown reason => reason
  | .unreadableSettings | .invalid _ | .outOfDomain | .mismatch | .unknownName | .overflow
  | .unserializable | .cancelled | .unending => []

/-- The wording with what there is to say about the kind of a violation: `help` gives the line that
follows, such as the place where the kind is explained. -/
def explained (help : Text → Text) : Failure → Text
  | .refusedWeight weight => message (.refusedWeight weight) ++ help (Rule.atLeast 0).kind
  | f => f.message

/-- The violations behind a failure. -/
def violations : Failure → List Violation
  | .refusedWeight _ => [.atField "weight" (.atLeast 0)]
  | .invalid vs => vs
  | _ => []

/-- The failures of reading and scanning, which the command line reports in one line. -/
def isScanFailure : Failure → Bool
  | .tooLarge _ _ _ | .unhashable | .undecodable _ _ | .unreadable _ _ => true
  | _ => false

/-- The caller can go on without what has failed. -/
def isRecoverable : Failure → Bool
  | .cancelled | .unending => false
  | _ => true

end Failure
end ThreatScan
