/-
# Secondary scorers

A scorer looks at a content from outside: a classifier, a remote service, or by default the
count of well-known words.  It may give an answer of any shape, fail, take too long, never end, or
be cancelled.  `Scorer.read` keeps of all that a pair of numbers or the reason why there is none.

An answer that is a `ScorerOutput` already is taken over as it is; only one that comes as untyped
data is decoded, and so checked.
-/
import ThreatScan.Data.Decode
import ThreatScan.Failure
import ThreatScan.Log.Event
import ThreatScan.Pattern.Occurrence

namespace ThreatScan

/-- What a scorer says of a content: how malicious it is and how sure that is. -/
structure ScorerOutput where
  score : Binary64
  confidence : Binary64
deriving DecidableEq, Repr, Inhabited

namespace ScorerOutput

/-- The answer as untyped data. -/
def toJson (o : ScorerOutput) : Json :=
  .record [("score", .float o.score), ("confidence", .float o.confidence)]

/-- Decodes an answer; both numbers lie between zero and one. -/
def decode : Decoder ScorerOutput := Decode.record "ScorerOutput" fun ms =>
  ScorerOutput.mk <$> Decode.required "score" (Decode.numberIn .unit) ms
    <*> Decode.required "confidence" (Decode.numberIn .unit) ms

end ScorerOutput

namespace Scorer

/-- How a scorer ends. -/
inductive Outcome where
  /-- With an answer as untyped data, which may have any shape. -/
  | answered (value : Json)
  /-- With a finished answer, whose numbers may be any. -/
  | made (output : ScorerOutput)
  /-- With an error. -/
  | failed (reason : Text)
  /-- With an error that has no wording, or a finished answer that has no numbers: to look at it
  fails once more, for a reason. -/
  | faulty (reason : Text)
  /-- Not in time, or so it says. -/
  | late
  /-- Not at all, unless it is told to stop. -/
  | silent
  /-- Not at all, and it does not stop either. -/
  | stuck
  /-- Cancelled from outside. -/
  | cancelled
deriving Inhabited

end Scorer

/-- A scorer: what it makes of a content. -/
abbrev Scorer := Text → Scorer.Outcome

namespace Scorer

/-! ## 1. Scoring by words -/

/-- The words of the default scorer. -/
def defaultWords : List Text := ["malware", "virus", "trojan", "exploit", "payload"]

/-- The answer for a number of words found: more of them, more malicious and more certain. -/
def wordScore (count : Nat) : ScorerOutput :=
  ⟨Binary64.least (Binary64.ofNat count * 0.2) 1, Binary64.least (Binary64.ofNat count * 0.15) 0.9⟩

/-- How often a content holds one of the given words, or of the default ones if none is given. -/
def wordCount (words : List Text) (content : Text) : Nat :=
  (Pattern.words (if words.isEmpty then defaultWords else words)).count content

/-- The answer of the scorer that counts words. -/
def countWords (words : List Text) (content : Text) : ScorerOutput :=
  wordScore (wordCount words content)

/-- The scorer that counts words. -/
def ofWords (words : List Text) : Scorer := fun content =>
  .answered (countWords words content).toJson

/-- The default scorer. -/
def default : Scorer := ofWords []

/-! ## 2. Reading an outcome -/

/-- The first line of what is wrong with an answer. -/
def complaint (violations : List Violation) : Text :=
  Text.ofNat violations.length ++
    (if violations.length = 1 then " validation error for ScorerOutput"
      else " validation errors for ScorerOutput")

/-- The reason of a failure. -/
def failure (reason : Text) : Text := "secondary scorer failed: " ++ reason

/-- The reason when the time, in seconds, is up. -/
def lateness (timeout : Binary64) : Text :=
  "secondary scorer timed out after " ++ Decimal.fixed 1 timeout ++ "s"

/-- An answer, or the reason why there is none.  With no time at all even a prompt scorer is late,
and with a time that is infinite or no number nobody tells it to stop. -/
def read (timeout : Binary64) (scorer : Scorer) (content : Text) :
    Except Failure (Except Text ScorerOutput) :=
  if timeout.atMost 0 then .ok (.error (lateness timeout))
  else match scorer content with
    | .answered value => match ScorerOutput.decode value with
      | .valid o => .ok (.ok o)
      | .invalid vs => .ok (.error (failure (complaint vs)))
    | .made output => .ok (.ok output)
    | .failed reason => .ok (.error (failure reason))
    | .faulty reason => .error (.breakdown reason)
    | .late => .ok (.error (lateness timeout))
    | .silent =>
      if timeout.less (.inf false) then .ok (.error (lateness timeout)) else .error .unending
    | .stuck => .error .unending
    | .cancelled => .error .cancelled

/-- What is said when there is no answer. -/
def event (reason : Text) : Event where
  importance := .warning
  speaker := "threatlens.ml.malware"
  message := reason ++ "; falling back to pattern-only scoring"

end Scorer
end ThreatScan
