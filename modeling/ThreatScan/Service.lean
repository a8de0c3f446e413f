/-
# The service

What other programs call: reading and scanning of files, bytes, paths and code with the settings
of a workspace.
-/
import ThreatScan.Engine.Setup
import ThreatScan.Settings.Load

namespace ThreatScan

/-- How a caller wants contents to be scanned. -/
structure ScanOptions where
  /-- The moment of the scan. -/
  clock : Timestamp
  /-- Contents are assessed as well, provided that the settings agree. -/
  usesSecondary : Bool := true
  scorer : Scorer := Scorer.default
  /-- The seed of scores if none is given. -/
  chance : Int := 0

namespace Service

/-! ## 1. Reading -/

/-- The bytes at a path, of which there may be no more than the settings allow. -/
def bytesAt (s : Settings) (w : Workspace) (path : FilePath) : Except Failure (List Nat) := do
  let unreadable := fun cause => Failure.unreadable path.text cause
  let size ← (w.size path).mapError unreadable
  if s.scanMaxContentBytes < size then
    .error (.tooLarge path.text size s.scanMaxContentBytes)
  else (w.read path).mapError unreadable

/-- The file at a path, of which there may be no more than the settings allow. -/
def fileAt (s : Settings) (w : Workspace) (path : FilePath) (mimeType : Option Text) :
    Except Failure FileInput := do
  FileInput.ofBytes path.name (← bytesAt s w path) mimeType

/-- The file at a path, whatever its size. -/
def anyFileAt (w : Workspace) (path : FilePath) (mimeType : Option Text) :
    Except Failure FileInput := do
  let bytes ← (w.read path).mapError (Failure.refusedPath path.text)
  FileInput.ofBytes path.name bytes mimeType

/-! ## 2. Scanning -/

/-- The engine for a call. -/
def engine (s : Settings) (o : ScanOptions) : Engine :=
  .ofSettings s Catalog.default o.scorer (some (o.usesSecondary && s.secondaryEnabled)) o.clock

/-- Scans a file. -/
def scanFile (w : Workspace) (o : ScanOptions) (file : FileInput) : Traced Report := do
  let s ← Traced.ofOutcome (Settings.load [] w)
  (engine s o).scanFile file

/-- Scans bytes as the content of a file. -/
def scanBytes (w : Workspace) (o : ScanOptions) (name : Text) (bytes : List Nat)
    (mimeType : Option Text) : Traced Report := do
  let file ← Traced.ofOutcome (FileInput.ofBytes name bytes mimeType)
  scanFile w o file

/-- Scans the file at a path. -/
def scanPath (w : Workspace) (o : ScanOptions) (path : FilePath) (mimeType : Option Text) :
    Traced Report := do
  let s ← Traced.ofOutcome (Settings.load [] w)
  let file ← Traced.ofOutcome (fileAt s w path mimeType)
  scanFile w o file

/-- Scans code; the seed of the call goes before the one of the settings. -/
def scanCode (w : Workspace) (o : ScanOptions) (code : Text) (seed : Option Int) :
    Traced CodeReport := do
  let s ← Traced.ofOutcome (Settings.load [] w)
  ((engine s o).scanCode code ((seed.map Sampler.ofSeed).getD (s.sampler o.chance))).1

end Service
end ThreatScan
