/-
# Matching

The signatures of a table against a content, as a whole or line by line.  Every signature that
occurs yields one finding (line by line: one for each line), whose weight is the weight of the
signature times the number of occurrences.  A finding whose weight is negative, or no number, is
refused and ends the matching.
-/
import ThreatScan.Catalog.Basic
import ThreatScan.Data.Decode
import ThreatScan.Log.Traced

namespace ThreatScan

/-- The findings of a table in order, up to the first one that is refused. -/
structure Matching where
  findings : List Finding
  refused : Option Finding
deriving Repr

namespace Matching

/-! ## 1. Findings of one signature -/

/-- The greatest number of code points in a snippet. -/
def snippetLimit : Nat := 200

/-- The finding for a number of occurrences of a signature. -/
def finding (s : Signature) (count : Nat) (snippet : Text) (line : Option Nat) : Finding where
  ruleId := s.ruleId
  label := s.label
  severity := s.severity
  category := s.category
  weight := s.weight.times count
  matchCount := count
  lineNumber := line.map fun n => (n : Int)
  snippet

/-- The finding of a signature in a whole content. -/
def inContent? (content : Text) (s : Signature) : Option Finding :=
  match s.pattern.occurrences content with
  | [] => none
  | o :: os => some (finding s (os.length + 1) (o.text snippetLimit) none)

/-- The finding of a signature in a line with its number; `search` looks for its pattern. -/
def inLine? (s : Signature) (search : Search) (line : Text × Nat) : Option Finding :=
  let count := search.count line.1
  if count = 0 then none
  else some (finding s count ((Text.trim line.1).take snippetLimit) (some line.2))

/-- The findings of a signature in numbered lines. -/
def inLines (lines : List (Text × Nat)) (s : Signature) : List Finding :=
  let search := s.pattern.search
  lines.filterMap (inLine? s search)

/-! ## 2. Findings of a table -/

/-- The weight breaks its bound. -/
def isRefused (f : Finding) : Bool := (Decode.Bounds.natural.brokenByNumber f.weight).isSome

/-- The findings in order, up to the first one that is refused. -/
def ofFindings (fs : List Finding) : Matching :=
  ⟨fs.takeWhile fun f => !isRefused f, fs.find? isRefused⟩

/-- A table against a whole content. -/
def ofContent (content : Text) (table : List Signature) : Matching :=
  ofFindings (table.filterMap (inContent? content))

/-- The lines of a text with their numbers, from 1. -/
def numberedLines (content : Text) : List (Text × Nat) := (Text.lines content).zipIdx 1

/-- A table against every line of a content, by signature and then by line. -/
def ofLines (content : Text) (table : List Signature) : Matching :=
  let lines := numberedLines content
  ofFindings (table.flatMap (inLines lines))

/-- The matching itself, unless a finding was refused. -/
def complete (m : Matching) : Except Failure Matching :=
  match m.refused with
  | some f => .error (.refusedWeight f.weight)
  | none => .ok m

/-! ## 3. Sums -/

/-- The sum of the weights. -/
def score (m : Matching) : Binary64 := m.findings.foldl (fun s f => s + f.weight) 0

/-- The number of occurrences. -/
def matchCount (m : Matching) : Int := m.findings.foldl (fun n f => n + f.matchCount) 0

/-- The number of signatures that occur. -/
def signatureCount (m : Matching) : Nat := (Text.firstOfEach (m.findings.map (·.ruleId))).length

/-- The labels without repetition, in order. -/
def labels (m : Matching) : List Text := Text.firstOfEach (m.findings.map (·.label))

/-- The number of findings of a severity. -/
def count (m : Matching) (severity : Level) : Nat := m.findings.countP fun f => f.severity = severity

/-! ## 4. Events -/

/-- What is said about a finding. -/
def event (f : Finding) : Event where
  importance := .debug
  speaker := "threatlens.scanner.matcher"
  message :=
    match f.lineNumber with
    | none => f.ruleId ++ " matched " ++ Text.ofInt f.matchCount ++ " time(s): " ++ f.snippet
    | some n => f.ruleId ++ " matched line " ++ Text.ofInt n ++ ": " ++ f.snippet

/-- What is said about a matching. -/
def events (m : Matching) : List Event := m.findings.map event

/-- The matching as a step of a scan. -/
def traced (m : Matching) : Traced Matching := ⟨m.events, m.complete⟩

/-! ## 5. Extensions -/

/-- The weight of an extension finding. -/
def extensionWeight : Binary64 := 1

/-- The finding for a file name with one of the extensions, which are compared with the name in
lower case. -/
def ofExtension? (name : Text) (extensions : List Text) : Option Finding :=
  (extensions.find? fun e => Text.endsWith e (Text.lowercase name)).map fun e =>
    { ruleId := "TL-EXT-001"
      label := "Suspicious executable file type (" ++ e ++ ")"
      severity := .high
      category := .extension
      weight := extensionWeight
      snippet := Text.takeLast snippetLimit name }

end Matching
end ThreatScan
