/-
# Blending scores

Three scores between zero and one are added up by shares that are not negative and make up the
whole.  A score outside the unit interval is moved into it first.
-/
import ThreatScan.Failure
import ThreatScan.Log.Event

namespace ThreatScan

/-- The shares of the pattern score, the secondary score and the anomaly score. -/
structure Blend where
  pattern : Binary64
  secondary : Binary64
  anomaly : Binary64
deriving DecidableEq, Repr, Inhabited

namespace Blend

/-- The usual shares. -/
def default : Blend := ⟨0.4, 0.35, 0.25⟩

/-- The shares in order. -/
def shares (b : Blend) : List Binary64 := [b.pattern, b.secondary, b.anomaly]

/-- The sum of the shares. -/
def total (b : Blend) : Binary64 := 0 + b.pattern + b.secondary + b.anomaly

/-- The sum counts as the whole when it is within a billionth of one. -/
def isWhole (sum : Binary64) : Bool :=
  sum.same 1 || (sum.isFinite &&
    (let d := (1 - sum).abs
     let tolerance : Binary64 := 0.000000001
     d.atMost (tolerance * 1).abs || d.atMost (tolerance * sum).abs || d.atMost tolerance))

/-- The blend of three shares, provided that they are sound. -/
def check (b : Blend) : Except Failure Blend :=
  if b.shares.any (Binary64.less · 0) then .error (.negativeShare b.shares)
  else if !isWhole b.total then .error (.shareSum b.total)
  else .ok b

/-- The sum of the scores by their shares. -/
def weigh (b : Blend) (pattern secondary anomaly : Binary64) : Binary64 :=
  b.pattern * pattern.clampUnit + b.secondary * secondary.clampUnit + b.anomaly * anomaly.clampUnit

/-- The blended score, between zero and one. -/
def combine (b : Blend) (pattern secondary anomaly : Binary64) : Binary64 :=
  (b.weigh pattern secondary anomaly).clampUnit

/-- What is said about blended scores. -/
def event (b : Blend) (pattern secondary anomaly : Binary64) : Event where
  importance := .debug
  speaker := "threatlens.ml.combiner"
  message :=
    "Combine: pattern=" ++ Decimal.fixed 3 pattern ++ " secondary=" ++ Decimal.fixed 3 secondary ++
      " anomaly=" ++ Decimal.fixed 3 anomaly ++ " -> " ++
      Decimal.fixed 3 (b.weigh pattern secondary anomaly)

end Blend
end ThreatScan
