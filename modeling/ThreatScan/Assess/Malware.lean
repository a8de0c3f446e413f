/-
# Malware assessment

A file is assessed by three scores: weighted evidence of an attack, signs of concealment, and
the answer of a secondary scorer.  Without an answer the assessment rests on the patterns and
says why.
-/
import ThreatScan.Assess.Blend
import ThreatScan.Assess.Scorer
import ThreatScan.Scan.Entropy
import ThreatScan.Scan.Matching
import ThreatScan.Scan.Verdict

namespace ThreatScan

/-- How files are assessed. -/
structure MalwareAnalyzer where
  catalog : Catalog
  scorer : Scorer
  blend : Blend
  timeout : Binary64
  entropyThreshold : Binary64

namespace MalwareAnalyzer

/-! ## 1. The two pattern scores -/

/-- A score with the threats behind it. -/
structure PatternScore where
  score : Binary64
  confidence : Binary64
  threats : List Text
deriving DecidableEq, Repr

/-- What the extension of a program adds to the evidence. -/
def executableScore : Binary64 := 0.3

/-- The name ends with the extension of a program. -/
def isExecutable (extensions : List Text) (name : Text) : Bool :=
  extensions.any fun e => Text.endsWith e (Text.lowercase name)

/-- The score of the evidence that was matched. -/
def patternScore (extensions : List Text) (name : Text) (m : Matching) : PatternScore :=
  let executable := isExecutable extensions name
  let total := if executable then m.score + executableScore else m.score
  { score := Binary64.least (total / 3) 1
    confidence := Binary64.least (Binary64.ofInt m.matchCount * 0.2) 1
    threats := m.labels ++ if executable then [Text.ofString "Suspicious executable file type"] else [] }

/-- The signs of concealment with the threats that they stand for. -/
structure AnomalyScore where
  score : Binary64
  isAnomaly : Bool
  patterns : List Text
  threats : List Text
deriving DecidableEq, Repr

/-- What a high entropy adds to the signs. -/
def entropyScore : Binary64 := 0.8

/-- The name of a high entropy as a sign. -/
def entropyPattern : Text := "High entropy content (possible encryption/packing)"

/-- The threat that a high entropy stands for. -/
def entropyThreat : Text := "High entropy content detected - possible packed/encrypted malware"

/-- The score of the signs that were matched, together with the entropy of the content. -/
def anomalyScore (isHigh : Bool) (m : Matching) : AnomalyScore :=
  let total := if isHigh then m.score + entropyScore else m.score
  { score := Binary64.least (total / 5) 1
    isAnomaly := Binary64.less 1 total
    patterns := m.labels ++ if isHigh then [entropyPattern] else []
    threats := m.labels.map (fun l => ("Anomaly detected: " : Text) ++ l) ++
      if isHigh then [entropyThreat] else [] }

/-! ## 2. The assessment -/

/-- The numbers that count: those of the answer, and zeros if there is none. -/
def answerOf : Except Text ScorerOutput → ScorerOutput
  | .ok o => o
  | .error _ => ⟨0, 0⟩

/-- The reason why there is no answer. -/
def reasonOf : Except Text ScorerOutput → Option Text
  | .ok _ => none
  | .error reason => some reason

/-- The assessment that follows from the scores. -/
def assessment (blend : Blend) (patterns : PatternScore) (anomalies : AnomalyScore)
    (secondary : Except Text ScorerOutput) : MalwareAssessment :=
  let answer := answerOf secondary
  let combined := blend.combine patterns.score answer.score anomalies.score
  let risk := (combined * 100).round
  { isMalicious := Binary64.less 0.6 combined
    confidence := Binary64.greatest answer.confidence patterns.confidence
    patternScore := patterns.score
    secondaryScore := answer.score
    combinedScore := combined
    riskScore := risk
    securityScore := 100 - risk
    threats := patterns.threats ++ anomalies.threats
    anomalyDetection := ⟨anomalies.isAnomaly, anomalies.score, anomalies.patterns⟩
    secondaryError := reasonOf secondary }

/-- The members of an assessment that are out of bounds. -/
def violations (a : MalwareAssessment) : List Violation :=
  let unit := fun (name : Text) (x : Binary64) =>
    ((Decode.Bounds.unit.brokenByNumber x).map (Violation.atField name)).toList
  let percent := fun (name : Text) (n : Int) =>
    ((Decode.Bounds.percent.brokenBy n).map (Violation.atField name)).toList
  match unit "anomaly_score" a.anomalyDetection.anomalyScore with
  | v :: vs => v :: vs
  | [] => unit "confidence" a.confidence ++ unit "pattern_score" a.patternScore ++
      unit "secondary_score" a.secondaryScore ++ unit "combined_score" a.combinedScore ++
      percent "risk_score" a.riskScore ++ percent "security_score" a.securityScore

/-- The answer of the scorer, and what is said if there is none. -/
def secondary (m : MalwareAnalyzer) (content : Text) : Traced (Except Text ScorerOutput) :=
  match m.scorer.read m.timeout content with
  | .error cause => .fail cause
  | .ok (.ok o) => .ofValue (.ok o)
  | .ok (.error reason) => ⟨[Scorer.event reason], .ok (.error reason)⟩

/-- The assessment of a file.  It fails if a finding is refused, if a number is out of bounds, or
if the scorer leaves neither an answer nor a reason. -/
def analyze (m : MalwareAnalyzer) (content name : Text) : Traced MalwareAssessment := do
  let attack ← (Matching.ofContent content m.catalog.advancedMalware).traced
  let concealment ← (Matching.ofContent content m.catalog.anomalies).traced
  let patterns := patternScore m.catalog.executableExtensions name attack
  let isHigh := m.entropyThreshold.less (Entropy.ofText content)
  let anomalies := anomalyScore isHigh concealment
  let a := assessment m.blend patterns anomalies (← m.secondary content)
  Traced.say [m.blend.event patterns.score a.secondaryScore anomalies.score]
  match violations a with
  | [] => pure a
  | vs => .fail (.invalid vs)

end MalwareAnalyzer
end ThreatScan
