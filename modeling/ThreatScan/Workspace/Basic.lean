/-
# Workspaces

A workspace is what a call finds around it: files and directories, the current one of them, and
the environment variables.  A path is followed step by step as the operating system does, so
that a step to the parent needs a directory to start from.
-/
import ThreatScan.Failure
import ThreatScan.Workspace.Path

namespace ThreatScan

/-- The files with their bytes, the directories, and the environment variables.  Files and
directories are known by the steps that lead to them from the root; the directories on the way
to one of them need not be listed. -/
structure Workspace where
  current : List Text := []
  files : List (List Text × List Nat) := []
  directories : List (List Text) := []
  environment : List (Text × Text) := []
deriving DecidableEq, Repr, Inhabited

namespace Workspace

/-! ## 1. Following a path -/

/-- A place that exists. -/
inductive Place where
  | directory (steps : List Text)
  | file (steps : List Text)
deriving DecidableEq, Repr

/-- The bytes of a file, if there is one. -/
def bytes? (w : Workspace) (steps : List Text) : Option (List Nat) := w.files.lookup steps

/-- A directory: one on the way to the current one, one that is listed or on the way to it, or
one on the way to a file. -/
def isDirectory (w : Workspace) (steps : List Text) : Bool :=
  steps.isPrefixOf w.current || w.directories.any (fun d => steps.isPrefixOf d) ||
    w.files.any fun f => steps.isPrefixOf f.1 && f.1 != steps

/-- The step to the parent. -/
def parentStep : Text := [46, 46]

/-- One step from a place.  The root is its own parent. -/
def enter (w : Workspace) (step : Text) : Place → Except FileError Place
  | .file _ => .error .notDirectory
  | .directory steps =>
    if step = parentStep then .ok (.directory steps.dropLast)
    else
      let next := steps ++ [step]
      if (w.bytes? next).isSome then .ok (.file next)
      else if w.isDirectory next then .ok (.directory next)
      else .error .missing

/-- Where a path starts. -/
def start (w : Workspace) (p : FilePath) : Place := .directory (if p.root = [] then w.current else [])

/-- The place that a path leads to. -/
def locate (w : Workspace) (p : FilePath) : Except FileError Place :=
  p.steps.foldlM (fun place step => w.enter step place) (w.start p)

/-! ## 2. Reading and writing -/

/-- The size that the operating system tells for a directory: one block. -/
def blockSize : Nat := 4096

/-- The number of bytes at a path. -/
def size (w : Workspace) (p : FilePath) : Except FileError Nat := do
  match ← w.locate p with
  | .file steps => pure ((w.bytes? steps).getD []).length
  | .directory _ => pure blockSize

/-- The bytes of the file at a path. -/
def read (w : Workspace) (p : FilePath) : Except FileError (List Nat) := do
  match ← w.locate p with
  | .file steps => pure ((w.bytes? steps).getD [])
  | .directory _ => .error .isDirectory

/-- The file that a write to a path creates or replaces; its directory has to exist. -/
def target (w : Workspace) (p : FilePath) : Except FileError (List Text) :=
  match p.steps.getLast? with
  | none => .error .isDirectory
  | some last => do
    match ← w.locate { p with steps := p.steps.dropLast } with
    | .file _ => .error .notDirectory
    | .directory steps =>
      if last = parentStep ∨ w.isDirectory (steps ++ [last]) then .error .isDirectory
      else pure (steps ++ [last])

/-- The workspace with a file written. -/
def withFile (w : Workspace) (steps : List Text) (bytes : List Nat) : Workspace :=
  { w with files := w.files.filter (fun f => f.1 != steps) ++ [(steps, bytes)] }

end Workspace
end ThreatScan
