/-
# The scan engine

A scan runs in two parts.  The first one matches the tables and ends where the scan waits for
what it has asked for: the digest of the content and, for a file, the malware assessment.  The
second one makes the report.  Between the two other scans may run, so the first part hands over
a draft, which holds all that the second one needs.

All that scans share is the sampler of scores, which only the first part of a code scan moves.
-/
import ThreatScan.Assess.Malware
import ThreatScan.Assess.Quality
import ThreatScan.Report.Assembly
import ThreatScan.Scan.Digest
import ThreatScan.Scan.Indication
import ThreatScan.Scan.Sampler

namespace ThreatScan

/-- What a scan works with. -/
structure Engine where
  catalog : Catalog
  /-- The greatest number of bytes in a content. -/
  maxBytes : Int
  /-- The number of digits in the digest of a report. -/
  digestLength : Int
  /-- Contents are assessed as well. -/
  usesSecondary : Bool
  /-- Assesses the content of a file with a name. -/
  assessFile : Text → Text → Traced MalwareAssessment
  /-- Assesses code. -/
  assessCode : Text → Traced CodeQuality
  /-- The moment of every scan. -/
  clock : Timestamp
  /-- What follows the wording of a refused finding in errors and logs, by the kind of violation. -/
  help : Text → Text := fun _ => []

namespace Engine

/-! ## 1. Common steps -/

/-- The part of the program that speaks. -/
def speaker : Text := "threatlens.scanner.engine"

/-- Refuses a content with too many bytes; `label` names it. -/
def checkSize (e : Engine) (label content : Text) : Except Failure Unit :=
  let size := Text.encodedLength content
  if e.maxBytes < size then .error (.tooLarge label size e.maxBytes) else .ok ()

/-- The digest of a content as the report shows it. -/
def digest (e : Engine) (content : Text) : Except Failure Text :=
  Digest.ofText e.digestLength content

/-- A result that never comes. -/
def isPending {α : Type} : Except Failure α → Bool
  | .error .unending => true
  | _ => false

/-- Two results that are both waited for.  If both fail, the first one counts; but as long as the
second one is pending there is no result at all. -/
def both {α β : Type} (first : Except Failure α) (second : Except Failure β) :
    Except Failure (α × β) :=
  if isPending second then .error .unending
  else first.bind fun a => second.map fun b => (a, b)

/-! ## 2. Files -/

/-- A file that was matched against the tables. -/
structure FileDraft where
  file : FileInput
  findings : List Finding
  threatCount : Int
  warningCount : Int
  metrics : AdvancedMetrics

/-- What is said when the scan of a file starts. -/
def fileStarted (name : Text) : Event := ⟨.info, speaker, "Scanning file " ++ name⟩

/-- What is said when a report on a file is done. -/
def fileDone (r : Report) : Event :=
  ⟨.info, speaker, "File scan " ++ r.metadata.name ++ " complete: security=" ++
    r.securityLevel.name ++ " threats=" ++ Text.ofInt r.threatCount ++ " warnings=" ++
    Text.ofInt r.warningCount ++ " duration=0ms"⟩

/-- What is said when a file could not be assessed. -/
def assessmentLost (e : Engine) (name : Text) (cause : Failure) : Event :=
  ⟨.warning, speaker, "Malware assessment failed for " ++ name ++ ": " ++ cause.explained e.help⟩

/-- The numbers of the indicators that are out of bounds. -/
def metricsViolations (m : AdvancedMetrics) : List Violation :=
  ((Decode.Bounds.natural.brokenByNumber m.entropyScore).map
    (Violation.atField "entropy_score")).toList

/-- What the indicators say about a content. -/
def metrics (c : Catalog) (content : Text) : Traced AdvancedMetrics := do
  let obfuscation ← (Matching.ofContent content c.obfuscation).traced
  let m : AdvancedMetrics := ⟨(Entropy.ofText content).roundPlaces 1,
    Indication.obfuscationLevel obfuscation.score, Indication.present content c.behaviors⟩
  match metricsViolations m with
  | [] => pure m
  | vs => .fail (.invalid vs)

/-- The findings in a file: malware, the extension, suspicious patterns. -/
def fileFindings (malware suspicious : Matching) (extension : Option Finding) : List Finding :=
  malware.findings ++ extension.toList ++ suspicious.findings

/-- Matches a file. -/
def beginFile (e : Engine) (file : FileInput) : Traced FileDraft := do
  Traced.ofOutcome (e.checkSize file.name file.content)
  Traced.say [fileStarted file.name]
  let malware ← (Matching.ofContent file.content e.catalog.malware).traced
  let suspicious ← (Matching.ofContent file.content e.catalog.suspicious).traced
  let extension := Matching.ofExtension? file.name e.catalog.suspiciousExtensions
  let metrics ← metrics e.catalog file.content
  pure {
    file
    findings := fileFindings malware suspicious extension
    threatCount := malware.signatureCount + extension.toList.length
    warningCount := suspicious.signatureCount
    metrics }

/-- The assessment of a file, if one is wanted and can be had; only what the scan cannot recover
from goes through. -/
def assessment (e : Engine) (file : FileInput) : Traced (Option MalwareAssessment) :=
  if !e.usesSecondary then .ofValue none
  else
    let t := e.assessFile file.content file.name
    match t.outcome with
    | .ok a => ⟨t.events, .ok (some a)⟩
    | .error cause =>
      if cause.isRecoverable then ⟨t.events ++ [e.assessmentLost file.name cause], .ok none⟩
      else ⟨t.events, .error cause⟩

/-- The facts of a file whose digest and assessment are known. -/
def fileFacts (d : FileDraft) (contentHash : Text) (assessment : Option MalwareAssessment) :
    FileFacts :=
  let basic := Verdict.ofFile d.threatCount d.warningCount
  { file := d.file
    contentHash
    securityLevel := match assessment with
      | some a => Verdict.escalate basic d.threatCount a
      | none => basic
    threatCount := match assessment with
      | some a => d.threatCount + Verdict.maliciousBonus a
      | none => d.threatCount
    warningCount := d.warningCount
    findings := d.findings
    metrics := some d.metrics
    assessment
    errors := match assessment.bind (·.secondaryError) with
      | some (c :: reason) => [c :: reason]
      | _ => [] }

/-- Makes the report on a file.  Digest and assessment are both waited for. -/
def finishFile (e : Engine) (d : FileDraft) : Traced Report :=
  let assessed := e.assessment d.file
  (⟨assessed.events, both (e.digest d.file.content) assessed.outcome⟩ :
      Traced (Text × Option MalwareAssessment)) >>= fun (contentHash, assessment) => do
    let r ← Traced.ofOutcome ((fileFacts d contentHash assessment).report e.clock)
    Traced.say [fileDone r]
    pure r

/-! ## 3. Code -/

/-- Code that was matched against the tables and assessed. -/
structure CodeDraft where
  code : Text
  findings : Matching
  securityScore : Int
  quality : Option CodeQuality
  errors : List Text

/-- What is said when a scan of code starts. -/
def codeStarted (code : Text) : Event :=
  ⟨.info, speaker, "Scanning " ++ Text.ofNat (Text.lines code).length ++ " lines of code"⟩

/-- What is said when a report on code is done. -/
def codeDone (r : CodeReport) : Event :=
  ⟨.info, speaker, "Code scan complete: security=" ++ r.securityLevel.name ++ " threats=" ++
    Text.ofInt r.threatCount ++ " warnings=" ++ Text.ofInt r.warningCount ++ " score=" ++
    Text.ofInt r.securityScore ++ " duration=0ms"⟩

/-- The reason why there is no assessment of code. -/
def qualityFailure (e : Engine) (cause : Failure) : Text :=
  "code quality scorer failed: " ++ cause.explained e.help

/-- What is said when code could not be assessed. -/
def qualityLost (reason : Text) : Event :=
  ⟨.warning, speaker, reason ++ "; using basic classification"⟩

/-- The level for code by its findings alone. -/
def basicLevel (vulnerabilities : Matching) : Level :=
  Verdict.ofCode (vulnerabilities.count .high) (vulnerabilities.count .medium)

/-- The assessment of code, if one is wanted and can be had, and the errors on the way. -/
def quality (e : Engine) (code : Text) : Traced (Option CodeQuality × List Text) :=
  if !e.usesSecondary then .ofValue (none, [])
  else
    let t := e.assessCode code
    match t.outcome with
    | .ok q => ⟨t.events, .ok (some q, [])⟩
    | .error cause =>
      let reason := e.qualityFailure cause
      ⟨t.events ++ [qualityLost reason], .ok (none, [reason])⟩

/-- Matches code against the table of vulnerabilities. -/
def matchCode (e : Engine) (code : Text) : Traced Matching := do
  Traced.ofOutcome (e.checkSize "code" code)
  Traced.say [codeStarted code]
  (Matching.ofLines code e.catalog.vulnerabilities).traced

/-- Matches and assesses code.  The sampler moves as soon as the findings are known, whatever
becomes of the scan. -/
def beginCode (e : Engine) (code : Text) (sampler : Sampler) : Traced CodeDraft × Sampler :=
  let t := e.matchCode code
  match t.outcome with
  | .error cause => (⟨t.events, .error cause⟩, sampler)
  | .ok findings =>
    let (securityScore, next) := sampler.score (basicLevel findings)
    let draft : Traced CodeDraft := do
      Traced.say t.events
      let (quality, errors) ← e.quality code
      pure { code, findings, securityScore, quality, errors }
    (draft, next)

/-- The facts of code whose digest and indicators are known. -/
def codeFacts (e : Engine) (d : CodeDraft) (contentHash : Text) (obfuscation : Matching)
    (performance : PerformanceImpact) : CodeFacts where
  code := d.code
  contentHash
  securityLevel := match d.quality with
    | some q => Verdict.ofQuality q
    | none => basicLevel d.findings
  securityScore := d.securityScore
  findings := d.findings.findings
  descriptions := e.catalog.vulnerabilities.map fun s => (s.ruleId, s.description)
  obfuscationLevel := Indication.obfuscationLevel obfuscation.score
  quality := d.quality
  performance := some performance
  errors := d.errors

/-- Makes the report on code. -/
def finishCode (e : Engine) (d : CodeDraft) : Traced CodeReport := do
  let contentHash ← Traced.ofOutcome (e.digest d.code)
  let obfuscation ← (Matching.ofContent d.code e.catalog.obfuscation).traced
  let performance ← Traced.ofOutcome (Indication.performance d.code e.catalog.performance)
  let r ← Traced.ofOutcome ((e.codeFacts d contentHash obfuscation performance).report e.clock)
  Traced.say [codeDone r]
  pure r

/-! ## 4. Whole scans -/

/-- Scans a file. -/
def scanFile (e : Engine) (file : FileInput) : Traced Report := e.beginFile file >>= e.finishFile

/-- Scans code. -/
def scanCode (e : Engine) (code : Text) (sampler : Sampler) : Traced CodeReport × Sampler :=
  let (draft, next) := e.beginCode code sampler
  (draft >>= e.finishCode, next)

end Engine
end ThreatScan
