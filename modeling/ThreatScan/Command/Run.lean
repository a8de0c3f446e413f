/-
# Running commands

What a command does: it prints a report or writes it to a file, logs what it does, and ends with
an exit code.  A scan that fails prints one line and writes nothing; nor does a report without a
document leave anything behind.
-/
import ThreatScan.Command.Line
import ThreatScan.Console.Report
import ThreatScan.Report.Document
import ThreatScan.Service

namespace ThreatScan
namespace Command

/-! ## 1. Results -/

/-- How a command ends. -/
structure Result where
  exitCode : Nat
  stdout : Text := []
  stderr : Text := []
  /-- A failure that the program does not handle. -/
  failure : Option Failure := none
  /-- The file that was written: its steps and its text. -/
  written : Option (List Text × Text) := none
deriving Repr

/-- What a command finds around it. -/
structure Surroundings where
  workspace : Workspace
  stdin : List Nat
  /-- The moment of the scan. -/
  clock : Timestamp
  /-- The time in log records. -/
  logTime : Text
  /-- The seed of scores if none is given. -/
  chance : Int := 0

/-- The line that tells of a failure. -/
def failureLine (f : Failure) : Text := "Error: " ++ f.message ++ [Text.newline]

/-- The end of a command that failed after some log lines. -/
def failed (log : Text) (f : Failure) : Result :=
  if f.isScanFailure then { exitCode := 1, stderr := log ++ failureLine f }
  else { exitCode := 1, stderr := log, failure := some f }

/-- The usage of the program. -/
def usage : Text := "Usage: threatlens [file PATH | code [SOURCE] | version] [OPTIONS]\n\nPattern-based malware and vulnerability scanner for files and source code\n"

/-! ## 2. Output -/

/-- Prints a text, or writes it to a file. -/
def deliver (w : Workspace) (log text : Text) : Option FilePath → Result
  | none => { exitCode := 0, stdout := text ++ [Text.newline], stderr := log }
  | some path =>
    match w.target path with
    | .error cause => failed log (.refusedPath path.text cause)
    | .ok steps =>
      { exitCode := 0
        stderr := log ++ "Output written to " ++ path.text ++ [Text.newline]
        written := some (steps, text) }

/-- Shows a report; a page always goes to the terminal. -/
def present (w : Workspace) (log : Text) (o : Options) (r : ScanReport) : Result :=
  match o.format with
  | .page => { exitCode := 0, stdout := r.page, stderr := log }
  | .document =>
    match r.document with
    | .ok text => deliver w log text o.output
    | .error cause => failed log cause
  | .summary => deliver w log r.summary o.output

/-! ## 3. Scans -/

/-- How the log is written for some options and settings. -/
def logSetup (o : Options) (s : Settings) : Except Failure LogSetup :=
  let level := match o.logLevel with
    | some (c :: name) => c :: name
    | _ => s.logLevel
  LogSetup.ofNames level s.logFormat.name

/-- Runs a scan, logs it and shows its report. -/
def scanning (a : Surroundings) (o : Options) (scan : Settings → Traced ScanReport) : Result :=
  match Settings.load [] a.workspace with
  | .error f => failed [] f
  | .ok s =>
    match logSetup o s with
    | .error f => failed [] f
    | .ok setup =>
      let t := scan s
      let log := setup.output a.logTime t.events
      match t.outcome with
      | .ok r => present a.workspace log o r
      | .error f => failed log f

/-- How the options want contents to be scanned. -/
def scanOptions (a : Surroundings) (o : Options) : ScanOptions :=
  { clock := a.clock, usesSecondary := o.usesSecondary, chance := a.chance }

/-- The code of a source. -/
def codeOf (a : Surroundings) (s : Settings) (source : Text) : Except Failure Text :=
  if source = "-" then decodeContent "<stdin>" a.stdin
  else (Service.fileAt s a.workspace (.ofText source) none).map (·.content)

/-- Scans the code of a source. -/
def scanSource (a : Surroundings) (o : Options) (source : Text) (seed : Option Int)
    (s : Settings) : Traced ScanReport := do
  let code ← Traced.ofOutcome (codeOf a s source)
  ScanReport.code <$> Service.scanCode a.workspace (scanOptions a o) code seed

/-- What the version command prints. -/
def versionText : Text :=
  "threatlens " ++ programVersion ++ " (signatures " ++ Catalog.default.version ++ ")\n"

/-- Runs a command. -/
def run (a : Surroundings) : Command → Result
  | .file path mimeType o => scanning a o fun _ =>
    ScanReport.file <$> Service.scanPath a.workspace (scanOptions a o) path mimeType
  | .code source seed o => scanning a o (scanSource a o source seed)
  | .version => { exitCode := 0, stdout := versionText }
  | .help => { exitCode := 0, stdout := usage }

/-- The end for a command line that cannot be understood. -/
def misunderstood : Result := { exitCode := 2, stderr := usage }

/-- Runs a command line. -/
def runLine (a : Surroundings) (arguments : List Text) : Result :=
  match ofArguments? arguments with
  | some command => run a command
  | none => misunderstood

end Command
end ThreatScan
