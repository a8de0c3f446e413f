/-
# What a command makes of a scan

A scanning command stands for one call of the service (`Calls`).  Whatever the content, this call
gives a report or fails as scans fail (`Calls.ends`), and the command ends accordingly: it shows the
report in exactly one place, or it tells of the failure in one line and touches no file
(`runLine_calls`).

Two things are in the way.  A report may have no document, if there is a surrogate in the name of
the file; a command that is to show it stops after the scan (`Result.Stops`).  And there is the
level of the log.  Settings with any name for it are valid, and a name that nobody knows stands for
INFO.  But a name is looked up among all that the logging library defines, and two of them are no
levels; a command stops at these before it scans, while a call that sets up no log does not notice
them.
-/
import ThreatScan.Proofs.Report.RoundTrip
import ThreatScan.Proofs.Service.Routes

namespace ThreatScan
namespace Command

/-! ## 1. Levels of the log -/

/-- The name of the level that the options give or else the settings. -/
def levelName (o : Options) (s : Settings) : Text :=
  match o.logLevel with
  | some (c :: name) => c :: name
  | _ => s.logLevel

/-- The names that the logging library knows for something else than a level. -/
def strangeNames : List Text := ["BASIC_FORMAT", "_STYLES"]

theorem levelOf_eq_ok_iff {name : Text} :
    (∃ n, LogSetup.levelOf name = .ok n) ↔ LogSetup.capitals name ∉ strangeNames := by
  rw [LogSetup.levelOf, strangeNames, List.mem_cons, List.mem_singleton]
  split
  case isTrue hname => simp [hname]
  case isFalse hname =>
    split
    case isTrue hname' => simp [hname']
    case isFalse hname' => simp [hname, hname']

theorem logSetup_eq_ok_iff {o : Options} {s : Settings} :
    (∃ setup, logSetup o s = .ok setup) ↔ LogSetup.capitals (levelName o s) ∉ strangeNames := by
  rw [← levelOf_eq_ok_iff]
  have hsetup : logSetup o s = LogSetup.ofNames (levelName o s) s.logFormat.name := rfl
  rw [hsetup, LogSetup.ofNames]
  cases LogSetup.levelOf (levelName o s) <;> simp [Except.map]

/-- Every line of the log is ended. -/
theorem output_ends (setup : LogSetup) (time : Text) (events : List Event) :
    setup.output time events = [] ∨ (setup.output time events).getLast? = some Text.newline := by
  rw [LogSetup.output]
  rcases List.eq_nil_or_concat' (events.filter fun e => setup.threshold ≤ e.importance.rank) with
    hnone | ⟨front, last, hlast⟩
  · rw [hnone]
    exact .inl rfl
  · rw [hlast, List.flatMap_append]
    right
    simp [Text.newline]

/-! ## 2. Calls -/

/-- What a report looks like in a format. -/
def OutputFormat.render : OutputFormat → ScanReport → Except Failure Text
  | .page, r => .ok r.page
  | .document, r => r.document
  | .summary, r => .ok r.summary

/-- A scanning command, its options, and how the call of the service that it stands for ends: for a
file at a path, for code from the standard input, or for code at a path. -/
inductive Calls (a : Surroundings) (s : Settings) :
    Command → Options → Except Failure ScanReport → Prop
  | file (path : FilePath) (mimeType : Option Text) (o : Options) :
    Calls a s (.file path mimeType o) o
      ((Service.scanPath a.workspace (scanOptions a o) path mimeType).outcome.map .file)
  | input (seed : Option Int) (o : Options) :
    Calls a s (.code "-" seed o) o
      (((decodeContent "<stdin>" a.stdin).bind fun code =>
        (Service.scanCode a.workspace (scanOptions a o) code seed).outcome).map .code)
  | code (source : Text) (seed : Option Int) (o : Options) (hsource : source ≠ "-") :
    Calls a s (.code source seed o) o
      (((Service.fileAt s a.workspace (.ofText source) none).bind fun file =>
        (Service.scanCode a.workspace (scanOptions a o) file.content seed).outcome).map .code)

/-! ## 3. How calls end -/

/-- A result, or one of the failures that the command line reports. -/
def EndsCleanly {α : Type} (x : Except Failure α) : Prop :=
  ∀ f, x = .error f → f.isScanFailure = true

section Ends

variable {α β : Type} {w : Workspace} {s : Settings}

theorem endsCleanly_ok (x : α) : EndsCleanly (.ok x : Except Failure α) := nofun

theorem endsCleanly_error {f : Failure} (h : f.isScanFailure = true) :
    EndsCleanly (.error f : Except Failure α) := by
  rintro g ⟨⟩
  exact h

theorem EndsCleanly.bind {x : Except Failure α} {f : α → Except Failure β} (hx : EndsCleanly x)
    (hf : ∀ y, x = .ok y → EndsCleanly (f y)) : EndsCleanly (x.bind f) := by
  cases x with
  | error g => exact endsCleanly_error (hx g rfl)
  | ok y => exact hf y rfl

theorem EndsCleanly.map (f : α → β) {x : Except Failure α} (hx : EndsCleanly x) :
    EndsCleanly (x.map f) := by
  cases x with
  | error g => exact endsCleanly_error (hx g rfl)
  | ok y => exact endsCleanly_ok _

theorem endsCleanly_decodeContent (source : Text) (bytes : List ℕ) :
    EndsCleanly (decodeContent source bytes) := by
  rcases decodeContent_cases bytes with ⟨-, content, -, hok⟩ | ⟨-, offset, herror⟩
  · rw [hok]
    exact endsCleanly_ok _
  · rw [herror]
    exact endsCleanly_error rfl

theorem endsCleanly_unreadable (path : Text) (x : Except FileError α) :
    EndsCleanly (x.mapError (Failure.unreadable path)) := by
  cases x with
  | error cause => exact endsCleanly_error rfl
  | ok y => exact endsCleanly_ok y

theorem endsCleanly_bytesAt (s : Settings) (w : Workspace) (path : FilePath) :
    EndsCleanly (Service.bytesAt s w path) := by
  refine EndsCleanly.bind (endsCleanly_unreadable path.text (w.size path)) fun size _ => ?_
  split
  · exact endsCleanly_error rfl
  · exact endsCleanly_unreadable path.text (w.read path)

theorem endsCleanly_fileAt (s : Settings) (w : Workspace) (path : FilePath)
    (mimeType : Option Text) : EndsCleanly (Service.fileAt s w path mimeType) := by
  refine EndsCleanly.bind (endsCleanly_bytesAt s w path) fun bytes _ => ?_
  rw [Service.ofBytes_eq]
  exact (endsCleanly_decodeContent _ _).bind fun content _ => endsCleanly_ok _

/-- A scan that ends with a report, with too many bytes or with a surrogate ends cleanly. -/
theorem endsCleanly_of_ends {e : Engine} {label content : Text} {sound : α → Prop}
    {outcome : Except Failure α} (h : e.Ends label content sound outcome) :
    EndsCleanly outcome := by
  obtain ⟨hlarge, hsurrogate, hreport⟩ := h
  by_cases hsize : e.maxBytes < (Text.encode content).length
  · rw [hlarge.mpr hsize]
    exact endsCleanly_error rfl
  · by_cases hany : ∃ c ∈ content, Text.isSurrogate c
    · rw [hsurrogate.mpr ⟨hsize, hany⟩]
      exact endsCleanly_error rfl
    · obtain ⟨r, hr, -⟩ := hreport.mpr ⟨hsize, hany⟩
      rw [hr]
      exact endsCleanly_ok r

end Ends

variable {a : Surroundings} {s : Settings} {command : Command} {o : Options}
  {outcome : Except Failure ScanReport}

theorem endsCleanly_scanCode (hs : Settings.load [] a.workspace = .ok s) (o : Options)
    (code : Text) (seed : Option ℤ) :
    EndsCleanly (Service.scanCode a.workspace (scanOptions a o) code seed).outcome := by
  simp only [Service.scanCode, hs, Traced.outcome_bind]
  exact endsCleanly_of_ends (Engine.ends_scanCode s _ _ _ code _ Catalog.noNegativeWeight_default)

/-- Every call ends with a report or with a failure that the command line reports. -/
theorem Calls.endsCleanly (hs : Settings.load [] a.workspace = .ok s)
    (h : Calls a s command o outcome) : EndsCleanly outcome := by
  cases h with
  | file path mimeType o =>
    rw [Service.outcome_scanPath hs]
    refine EndsCleanly.map _ ((endsCleanly_fileAt s _ path mimeType).bind fun file _ => ?_)
    rw [Service.outcome_scanFile hs]
    exact endsCleanly_of_ends (Engine.ends_scanFile _ _ _ Catalog.noNegativeWeight_default
      fun _ _ => Scorer.comesBack_default _ _)
  | input seed o =>
    exact EndsCleanly.map _ ((endsCleanly_decodeContent _ _).bind fun code _ =>
      endsCleanly_scanCode hs o code seed)
  | code source seed o =>
    exact EndsCleanly.map _ ((endsCleanly_fileAt s _ _ none).bind fun file _ =>
      endsCleanly_scanCode hs o file.content seed)

/-! ## 4. How commands end -/

/-- The text is in one place: on the standard output, or in the file that was asked for. -/
structure Result.Delivers (x : Result) (w : Workspace) (text : Text) (output : Option FilePath) :
    Prop where
  exitCode : x.exitCode = 0
  failure : x.failure = none
  place : match output with
    | none => x.stdout = text ++ [Text.newline] ∧ x.written = none
    | some path => x.stdout = [] ∧ ∃ steps, w.target path = .ok steps ∧
        x.written = some (steps, text)

/-- The failure is told in a line of its own at the end, and no file is touched. -/
structure Result.Refuses (x : Result) (f : Failure) : Prop where
  exitCode : x.exitCode = 1
  failure : x.failure = none
  stdout : x.stdout = []
  written : x.written = none
  stderr : ∃ log, x.stderr = log ++ failureLine f ∧
    (log = [] ∨ log.getLast? = some Text.newline)

/-- The failure is one that nobody handles, and nothing is shown. -/
structure Result.Stops (x : Result) (f : Failure) : Prop where
  exitCode : x.exitCode = 1
  failure : x.failure = some f
  stdout : x.stdout = []
  written : x.written = none

theorem delivers_deliver {w : Workspace} {output : Option FilePath} (log text : Text)
    (houtput : ∀ path ∈ output, ∃ steps, w.target path = .ok steps) :
    (deliver w log text output).Delivers w text output := by
  cases output with
  | none => exact ⟨rfl, rfl, rfl, rfl⟩
  | some path =>
    obtain ⟨steps, hsteps⟩ := houtput path rfl
    simp only [deliver, hsteps]
    exact ⟨rfl, rfl, rfl, steps, hsteps, rfl⟩

/-- A report is shown unless it has no document and is to be shown as one. -/
theorem delivers_present {w : Workspace} (log : Text) {r : ScanReport} (hformat : o.format ≠ .page)
    (houtput : ∀ path ∈ o.output, ∃ steps, w.target path = .ok steps)
    (hdocument : ¬ (o.format = .document ∧ r.hasSurrogate = true)) :
    ∃ text, o.format.render r = .ok text ∧ (present w log o r).Delivers w text o.output := by
  unfold present
  cases h : o.format with
  | page => exact absurd h hformat
  | document =>
    have hok : r.document = .ok _ := if_neg fun hany => hdocument ⟨h, hany⟩
    simp only [OutputFormat.render, hok]
    exact ⟨_, rfl, delivers_deliver log _ houtput⟩
  | summary => exact ⟨_, rfl, delivers_deliver log _ houtput⟩

theorem stops_present {w : Workspace} (log : Text) {r : ScanReport}
    (hformat : o.format = .document) (hsurrogate : r.hasSurrogate = true) :
    (present w log o r).Stops .unserializable := by
  have herror : r.document = .error .unserializable := if_pos hsurrogate
  simp only [present, hformat, herror]
  exact ⟨rfl, rfl, rfl, rfl⟩

theorem refuses_failed {log : Text} {f : Failure}
    (hlog : log = [] ∨ log.getLast? = some Text.newline) (hf : f.isScanFailure = true) :
    (failed log f).Refuses f := by
  rw [failed, if_pos hf]
  exact ⟨rfl, rfl, rfl, rfl, log, rfl, hlog⟩

section Scanning

variable {setup : LogSetup} {scan : Settings → Traced ScanReport}

theorem scanning_of_ok (hs : Settings.load [] a.workspace = .ok s)
    (hsetup : logSetup o s = .ok setup) {r : ScanReport} (h : (scan s).outcome = .ok r) :
    scanning a o scan = present a.workspace (setup.output a.logTime (scan s).events) o r := by
  simp only [scanning, hs, hsetup, h]

theorem scanning_of_error (hs : Settings.load [] a.workspace = .ok s)
    (hsetup : logSetup o s = .ok setup) {f : Failure} (h : (scan s).outcome = .error f) :
    scanning a o scan = failed (setup.output a.logTime (scan s).events) f := by
  simp only [scanning, hs, hsetup, h]

end Scanning

/-- A scanning command runs the call that it stands for. -/
theorem Calls.exists_scan (h : Calls a s command o outcome) :
    ∃ scan, run a command = scanning a o scan ∧ (scan s).outcome = outcome := by
  cases h with
  | file path mimeType o => exact ⟨_, rfl, Traced.outcome_map _ _⟩
  | input seed o =>
    refine ⟨_, rfl, ?_⟩
    rw [outcome_scanSource, codeOf, if_pos rfl]
  | code source seed o hsource =>
    refine ⟨_, rfl, ?_⟩
    rw [outcome_scanSource, codeOf, if_neg hsource]
    cases Service.fileAt s a.workspace (.ofText source) none <;> rfl

/-- **A scanning command ends as its call does**, whatever the content is and wherever it comes
from.  A report is shown in the format that was asked for and in one place only, unless this is a
document and a text of the report holds a surrogate: then the command stops and leaves nothing
behind.  Every failure is one that the command line reports: with the exit code 1, on the standard
error, and before any output. -/
theorem runLine_calls (hs : Settings.load [] a.workspace = .ok s) {arguments : List Text}
    (hline : ofArguments? arguments = some command) (hcall : Calls a s command o outcome)
    (hformat : o.format ≠ .page) (hlevel : LogSetup.capitals (levelName o s) ∉ strangeNames)
    (houtput : ∀ path ∈ o.output, ∃ steps, a.workspace.target path = .ok steps) :
    (∀ r, outcome = .ok r →
      (¬ (o.format = .document ∧ r.hasSurrogate = true) →
        ∃ text, o.format.render r = .ok text ∧
          (runLine a arguments).Delivers a.workspace text o.output) ∧
      (o.format = .document ∧ r.hasSurrogate = true →
        (runLine a arguments).Stops .unserializable)) ∧
    ∀ f, outcome = .error f → f.isScanFailure = true ∧ (runLine a arguments).Refuses f := by
  obtain ⟨setup, hsetup⟩ := logSetup_eq_ok_iff.mpr hlevel
  obtain ⟨scan, hrun, hscan⟩ := hcall.exists_scan
  have hresult : runLine a arguments = scanning a o scan := by
    simp only [runLine, hline, hrun]
  constructor
  · intro r hr
    rw [hresult, scanning_of_ok hs hsetup (hscan.trans hr)]
    exact ⟨delivers_present _ hformat houtput,
      fun ⟨hdocument, hsurrogate⟩ => stops_present _ hdocument hsurrogate⟩
  · intro f hf
    have hreported : f.isScanFailure = true := hcall.endsCleanly hs f hf
    rw [hresult, scanning_of_error hs hsetup (hscan.trans hf)]
    exact ⟨hreported, refuses_failed (output_ends setup a.logTime _) hreported⟩

/-! ## 5. One file -/

/-- Surroundings with one file of two letters and some environment variables. -/
def Surroundings.ofFile (name : Text) (environment : List (Text × Text)) : Surroundings :=
  { workspace := { files := [([name], [104, 105])], environment }, stdin := [], clock := default,
    logTime := [] }

/-- The report on the file with this name, for a level of the log. -/
def letters (logLevel name : Text) : Report :=
  (Engine.ofSettings { logLevel } Catalog.default Scorer.default (some true) default).fileReport
    ⟨name, "hi", some 2, none⟩ "SHA256: 8f434346648f6b96..."
    (some ((({ logLevel } : Settings).malwareAnalyzer Catalog.default Scorer.default).assess "hi"
      name (.ok ⟨0, 0⟩)))

/-- The call gives this report. -/
theorem scanPath_ofFile {logLevel name : Text} {environment : List (Text × Text)}
    (hs : Settings.load [] (Surroundings.ofFile name environment).workspace = .ok { logLevel })
    (hread : (Surroundings.ofFile name environment).workspace.read (.ofText name) = .ok [104, 105])
    (hname : (FilePath.ofText name).name = name) (o : Options)
    (hsecondary : o.usesSecondary = true) :
    (Service.scanPath (Surroundings.ofFile name environment).workspace
      (scanOptions (.ofFile name environment) o) (.ofText name) none).outcome =
        .ok (letters logLevel name) := by
  have hcatalog := Catalog.noNegativeWeight_default
  have hcontent : decodeContent name [104, 105] = .ok "hi" := by
    have hdecode : Text.decode [104, 105] = .ok "hi" := by decide +kernel
    rw [decodeContent, hdecode]
  have hfile : Service.fileAt { logLevel } (Surroundings.ofFile name environment).workspace
      (.ofText name) none = .ok ⟨name, "hi", some 2, none⟩ := by
    rw [Service.fileAt_eq hread, hname, Service.ofBytes_eq, hcontent]
    rfl
  have hanswer : Scorer.read 5 Scorer.default "hi" = .ok (.ok ⟨0, 0⟩) := by decide +kernel
  have hdigest : Digest.ofText 16 "hi" = .ok "SHA256: 8f434346648f6b96..." := by decide +kernel
  have hwanted : Service.engine { logLevel } (scanOptions (.ofFile name environment) o) =
      .ofSettings { logLevel } Catalog.default Scorer.default (some true) default := by
    rw [Service.engine, scanOptions, hsecondary]
    rfl
  rw [Service.outcome_scanPath hs, hfile]
  refine (Service.outcome_scanFile hs _ _).trans ?_
  rw [hwanted]
  refine Engine.scanFile_eq_ok (Engine.fileTables_eq hcatalog) (Engine.assessment_of_ok rfl
    (MalwareAnalyzer.analyze_eq (hcatalog .advancedMalware) (hcatalog .anomalies) hanswer
      ScorerOutput.inUnit_zero)) ?_ hdigest
  show ¬ (10485760 : ℤ) < (Text.encode "hi").length
  decide +kernel

/-- Only its name can bring a surrogate into the report. -/
theorem hasSurrogate_letters :
    (ScanReport.file (letters "INFO" "note.txt")).hasSurrogate = false ∧
      ∀ logLevel name, name.any Text.isSurrogate = true →
        (ScanReport.file (letters logLevel name)).hasSurrogate = true := by
  constructor
  · simp only [letters, Engine.fileReport, Engine.draftOf, Engine.metricsOf,
      MalwareAnalyzer.assess, MalwareAnalyzer.patterns, MalwareAnalyzer.anomalies,
      Matching.ofContent, Matching.inContent?_eq_scanContent?, Indication.present,
      Pattern.foundIn_eq_scan]
    decide +kernel
  · intro logLevel name hname
    refine List.any_eq_true.mpr ⟨name, ScanReport.mem_texts_of_metadata ?_, hname⟩
    exact List.mem_cons_self

/-- The arguments for a scan of a path that writes the document to a file. -/
def argumentsFor (path : Text) : List Text :=
  ["file", path, "--format", "json", "--output", "report.json"]

/-- A name with a byte that is no text. -/
def spoiledName : Text := 0xDCFF :: ".txt"

/-- The report on a file goes to another file, unless there is a surrogate in the name of the first
one; a file that is not there is told of. -/
theorem runLine_calls_of_note :
    (∃ text, (ScanReport.file (letters "INFO" "note.txt")).document = .ok text ∧
      (runLine (.ofFile "note.txt" []) (argumentsFor "note.txt")).Delivers
        (Surroundings.ofFile "note.txt" []).workspace text (some (.ofText "report.json"))) ∧
    (runLine (.ofFile spoiledName []) (argumentsFor spoiledName)).Stops .unserializable ∧
    ∃ f, (runLine (.ofFile "note.txt" []) (argumentsFor "nope.txt")).Refuses f := by
  let o : Options := { format := .document, output := some (.ofText "report.json") }
  have hlevel : LogSetup.capitals (levelName o {}) ∉ strangeNames := by decide +kernel
  have hline : ∀ name ∈ [Text.ofString "note.txt", spoiledName, "nope.txt"],
      ofArguments? (argumentsFor name) = some (.file (.ofText name) none o) := by
    decide +kernel
  have hs : ∀ name ∈ [Text.ofString "note.txt", spoiledName],
      Settings.load [] (Surroundings.ofFile name []).workspace = .ok {} := by
    decide +kernel
  have hread : ∀ name ∈ [Text.ofString "note.txt", spoiledName],
      (Surroundings.ofFile name []).workspace.read (.ofText name) = .ok [104, 105] ∧
        (FilePath.ofText name).name = name := by
    decide +kernel
  have houtput : ∀ name ∈ [Text.ofString "note.txt", spoiledName],
      ∀ path ∈ o.output, ∃ steps,
        (Surroundings.ofFile name []).workspace.target path = .ok steps := by
    rintro name hname path ⟨⟩
    refine ⟨[Text.ofString "report.json"], ?_⟩
    revert name
    decide +kernel
  have hmissing : Service.fileAt {} (Surroundings.ofFile "note.txt" []).workspace
      (.ofText "nope.txt") none = .error (.unreadable "nope.txt" .missing) := by
    decide +kernel
  have hcalls {name : Text} (hname : name ∈ [Text.ofString "note.txt", spoiledName]) :=
    (runLine_calls (hs name hname) (hline name (List.mem_append_left _ hname)) (.file _ none o)
      (by decide) hlevel (houtput name hname)).1 (.file (letters "INFO" name)) (by
        rw [scanPath_ofFile (hs name hname) (hread name hname).1 (hread name hname).2 o rfl]
        rfl)
  refine ⟨?_, ?_, .unreadable "nope.txt" .missing, ?_⟩
  · refine (hcalls (by simp)).1 ?_
    rw [hasSurrogate_letters.1]
    simp
  · exact (hcalls (by simp)).2 ⟨rfl, hasSurrogate_letters.2 _ _ rfl⟩
  · refine ((runLine_calls (hs _ (by simp)) (hline _ (by simp)) (.file _ none o) (by decide) hlevel
      (houtput _ (by simp))).2 _ ?_).2
    rw [Service.outcome_scanPath (hs _ (by simp)), hmissing]
    rfl

/-- With the name of a format for the level of the log the settings are valid and the call has a
report, but the command stops before it scans, with a failure that nobody handles. -/
theorem runLine_of_strangeName :
    let a := Surroundings.ofFile "note.txt" [("THREATLENS_LOG_LEVEL", "BASIC_FORMAT")]
    (∃ s, Settings.load [] a.workspace = .ok s) ∧
      (∃ r, (Service.scanPath a.workspace (scanOptions a { format := .document })
        (.ofText "note.txt") none).outcome = .ok r) ∧
      (runLine a ["file", "note.txt", "--format", "json"]).Stops .outOfDomain := by
  intro a
  have hs : Settings.load [] a.workspace = .ok { logLevel := "BASIC_FORMAT" } := by decide +kernel
  refine ⟨⟨_, hs⟩, ⟨_, scanPath_ofFile hs (by decide +kernel) (by decide +kernel) _ rfl⟩, ?_⟩
  have hline : ofArguments? ["file", "note.txt", "--format", "json"] =
      some (.file (.ofText "note.txt") none { format := .document }) := by
    decide +kernel
  have hsetup : logSetup { format := .document } { logLevel := "BASIC_FORMAT" } =
      .error .outOfDomain := by
    decide +kernel
  simp only [runLine, hline, run, scanning, hs, hsetup]
  exact ⟨rfl, rfl, rfl, rfl⟩

end Command
end ThreatScan
