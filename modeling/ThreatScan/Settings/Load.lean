/-
# Where settings come from

A setting is taken from the arguments of the call, or else from the environment, or else from
the settings file in the current directory.  In the environment and in the file its name has a
word in front and may be written in any case; an empty value there counts as none.
-/
import ThreatScan.Settings.Basic
import ThreatScan.Settings.EnvFile
import ThreatScan.Text.Utf8
import ThreatScan.Workspace.Basic

namespace ThreatScan
namespace Settings

open Decode (Members)

/-! ## 1. Named values -/

/-- What stands before the name of a setting in the environment. -/
def variableStart : Text := "threatlens_"

/-- The names in lower case, those with an empty value left out; of two equal names the later one
counts. -/
def lowerNames (bs : List EnvFile.Binding) : List EnvFile.Binding :=
  (bs.filter fun b => b.2 != some []).foldl
    (fun done b => EnvFile.bind (Text.lowercase b.1) b.2 done) []

/-- The settings among variables. -/
def ofVariables (vs : List EnvFile.Binding) : Members :=
  names.filterMap fun name =>
    match vs.lookup (variableStart ++ name) with
    | some (some value) => some (name, .text value)
    | _ => none

/-- The variables of the settings file that are no settings and so will be refused.  One that has
the bare name of a setting is passed over. -/
def strangers (vs : List EnvFile.Binding) : Members :=
  vs.filterMap fun b =>
    match b.2 with
    | some (c :: value) =>
      if names.contains b.1 || names.any (fun n => b.1 = variableStart ++ n) then none
      else some (b.1, .text (c :: value))
    | _ => none

/-- Named values, those of `upper` in place of those of `lower`. -/
def overlay (upper lower : Members) : Members :=
  lower.map (fun m => (m.1, (upper.lookup m.1).getD m.2)) ++
    upper.filter fun m => (lower.lookup m.1).isNone

/-! ## 2. Loading -/

/-- The path of the settings file. -/
def filePath : FilePath := ⟨[], [".env"]⟩

/-- The variables of the settings file; a directory of that name does not count. -/
def fileVariables (w : Workspace) : Except Failure (List EnvFile.Binding) :=
  match w.read filePath with
  | .error _ => .ok []
  | .ok bytes =>
    match Text.decode bytes with
    | .ok t => .ok (lowerNames (EnvFile.read w.environment t))
    | .error _ => .error .unreadableSettings

/-- The settings for the arguments of a call in a workspace. -/
def load (arguments : Members) (w : Workspace) : Except Failure Settings := do
  let environment := lowerNames (w.environment.map fun v => (v.1, some v.2))
  let file ← fileVariables w
  ofMembers (overlay arguments (overlay (ofVariables environment)
    (ofVariables file ++ strangers file)))

end Settings
end ThreatScan
