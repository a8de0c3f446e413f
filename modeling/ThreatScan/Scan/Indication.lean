/-
# Indications

What the indicator tables say about a content: how obfuscated it is, what it seems to do, and
what it costs to run.
-/
import ThreatScan.Scan.Matching

namespace ThreatScan

/-- What code costs: a score from 100 down, and the patterns found. -/
structure PerformanceImpact where
  score : Int
  bottlenecks : List Text
deriving DecidableEq, Repr, Inhabited

namespace Indication

/-- The level of an obfuscation score: above ten is high, above five medium. -/
def obfuscationLevel (score : Binary64) : Level :=
  if Binary64.less 10 score then .high
  else if Binary64.less 5 score then .medium
  else .low

/-- The labels of the signatures that occur in a content. -/
def present (content : Text) (table : List Signature) : List Text :=
  (table.filter fun s => s.pattern.foundIn content).map (·.label)

/-- One hundred, less the penalty of every signature that occurs in the code. -/
def performanceScore (code : Text) (table : List Signature) : Binary64 :=
  (table.filter fun s => s.pattern.foundIn code).foldl (fun x s => x - s.weight) 100

/-- The integer part of a score, which is at least zero; a score must be a number. -/
def wholeScore (score : Binary64) : Except Failure Int :=
  match Binary64.greatest score 0 with
  | .nan => .error .outOfDomain
  | .inf _ => .error .overflow
  | x => .ok x.truncate

/-- What the code costs.  A score above one hundred is refused. -/
def performance (code : Text) (table : List Signature) : Except Failure PerformanceImpact := do
  let score ← wholeScore (performanceScore code table)
  if 100 < score then .error (.invalid [.atField "score" (.atMost 100)])
  else .ok ⟨score, present code table⟩

end Indication
end ThreatScan
