/-
# The program

Collects what a command finds around it, runs the command, and prints, writes and exits as its
result says.
-/
import Std.Time.DateTime.Timestamp
import ThreatScan.Command.Run

namespace ThreatScan
namespace Program

/-! ## 1. Texts and bytes -/

/-- The string of a text; a surrogate becomes the replacement character. -/
def stringOf (t : Text) : String :=
  String.ofList (t.map fun c => if Text.isSurrogate c then '\uFFFD' else Char.ofNat c)

/-- The bytes as numbers. -/
def numbersOf (bytes : ByteArray) : List Nat := bytes.toList.map UInt8.toNat

/-- The bytes of a text. -/
def bytesOf (t : Text) : ByteArray := ⟨((Text.encode t).map UInt8.ofNat).toArray⟩

/-! ## 2. Time -/

/-- The moment that the clock shows. -/
def moment : IO Timestamp := do
  let now := (← Std.Time.Timestamp.now).val
  return .ofUnix now.second.val.toNat (now.nano.val.toNat / 1000)

/-- A moment as log records show it, with milliseconds. -/
def logTimeOf (t : Timestamp) : Text :=
  ({ t with microsecond := 0, offset := none } : Timestamp).text.map
      (fun c => if c = 84 then 32 else c) ++
    [44] ++ Timestamp.digits 3 (t.microsecond / 1000)

/-! ## 3. Surroundings -/

/-- The names of the environment variables that the program looks at. -/
def variableNames : List Text :=
  Settings.names.flatMap fun name =>
    let name := Settings.variableStart ++ name
    [name.map Text.upperAscii, name]

/-- The variables that are set. -/
def environmentOf : IO (List (Text × Text)) :=
  variableNames.filterMapM fun name => do
    return (← IO.getEnv (stringOf name)).map fun value => (name, Text.ofString value)

/-- The error number of a directory that is read as a file. -/
def directoryError : UInt32 := 21

/-- Adds what stands at some steps from the root to a workspace. -/
def explore (w : Workspace) (steps : List Text) : IO Workspace := do
  try
    let bytes ← IO.FS.readBinFile (stringOf (FilePath.text ⟨[FilePath.slash], steps⟩))
    return { w with files := w.files ++ [(steps, numbersOf bytes)] }
  catch
    | .inappropriateType _ code _ =>
      return if code = directoryError then { w with directories := w.directories ++ [steps] } else w
    | _ => return w

/-- The places on the way of a path, each as steps from the root. -/
def waypoints (w : Workspace) (p : FilePath) : List (List Text) :=
  let start := if p.root = [] then w.current else []
  (p.steps.foldl (fun (here, seen) step =>
    let here := if step = Workspace.parentStep then here.dropLast else here ++ [step]
    (here, seen ++ [here])) (start, ([] : List (List Text)))).2

/-- The paths that a command looks at. -/
def pathsOf (command : Command) : List FilePath :=
  Settings.filePath :: match command with
    | .file path _ o => path :: o.output.toList
    | .code source _ o => (if source = "-" then [] else [FilePath.ofText source]) ++ o.output.toList
    | .version | .help => []

/-- What a command finds in the file system. -/
def workspaceOf (command : Command) : IO Workspace := do
  let current := (FilePath.ofText (Text.ofString (← IO.currentDir).toString)).steps
  let w : Workspace := { current, environment := ← environmentOf }
  ((pathsOf command).flatMap (waypoints w)).eraseDups.foldlM explore w

/-- The standard input, if the command reads it. -/
def inputOf : Command → IO (List Nat)
  | .code source _ _ =>
    if source = "-" then return numbersOf (← IO.FS.readBinFile "/dev/stdin") else return []
  | _ => return []

/-- All that a command finds around it. -/
def surroundingsOf (command : Command) : IO Command.Surroundings := do
  let clock ← moment
  return {
    workspace := ← workspaceOf command
    stdin := ← inputOf command
    clock
    logTime := logTimeOf clock
    chance := ← IO.rand 0 0xFFFFFFFF }

/-! ## 4. Running -/

/-- Prints, writes and exits as a result says. -/
def conclude (r : Command.Result) : IO UInt32 := do
  let stdout ← IO.getStdout
  let stderr ← IO.getStderr
  match r.written with
  | some (steps, text) =>
    IO.FS.writeBinFile (stringOf (FilePath.text ⟨[FilePath.slash], steps⟩)) (bytesOf text)
  | none => pure ()
  stderr.write (bytesOf r.stderr)
  stdout.write (bytesOf r.stdout)
  match r.failure with
  | some f => stderr.write (bytesOf (f.message ++ [Text.newline]))
  | none => pure ()
  return r.exitCode.toUInt32

end Program
end ThreatScan

open ThreatScan in
/-- Runs a command line. -/
def main (arguments : List String) : IO UInt32 := do
  match Command.ofArguments? (arguments.map Text.ofString) with
  | none => Program.conclude Command.misunderstood
  | some command => Program.conclude (Command.run (← Program.surroundingsOf command) command)
