/-
# Paths

A path is written with slashes.  Empty steps and steps to the same directory do not count; a
step to the parent does, for what it means depends on the files.
-/
import ThreatScan.Text.Basic

namespace ThreatScan

/-- A path: where it starts and its steps. -/
structure FilePath where
  /-- The slashes in front: none for a path from the current directory. -/
  root : Text
  steps : List Text
deriving DecidableEq, Repr, Inhabited

namespace FilePath

/-- The slash. -/
def slash : CodePoint := 47

/-- The root of a path with the given number of slashes in front; two are kept apart from one. -/
def rootOf (slashes : Nat) : Text :=
  if slashes = 0 then [] else if slashes = 2 then [slash, slash] else [slash]

/-- The path that a text writes. -/
def ofText (t : Text) : FilePath where
  root := rootOf (t.takeWhile (· = slash)).length
  steps := (Text.splitOn slash t).filter fun s => s != [] && s != ([46] : Text)

/-- The path as a text; the current directory is a point. -/
def text (p : FilePath) : Text :=
  if p.root = [] ∧ p.steps = [] then [46] else p.root ++ Text.join [slash] p.steps

/-- The last step; none if there are no steps. -/
def name (p : FilePath) : Text := p.steps.getLastD []

end FilePath
end ThreatScan
