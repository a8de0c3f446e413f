/-
# Command lines

The arguments of a call of the program: the name of a command, then options and values in any
order.  An option is written in full or, if it has one, by its letter; a value follows it as the
next argument, after `=`, or right after the letter.  Of an option given twice the last one
counts, and after `--` there are no more options.
-/
import ThreatScan.Data.Numeral
import ThreatScan.Workspace.Path

namespace ThreatScan
namespace Command

/-! ## 1. Commands -/

/-- How a report is shown. -/
inductive OutputFormat where
  | page
  | document
  | summary
deriving DecidableEq, Repr, Inhabited

namespace OutputFormat

/-- The word for a format. -/
def name : OutputFormat → Text
  | .page => "console"
  | .document => "json"
  | .summary => "summary"

/-- The format of a word. -/
def ofName? (t : Text) : Option OutputFormat := [page, document, summary].find? fun f => f.name = t

end OutputFormat

/-- What both scanning commands can be told. -/
structure Options where
  format : OutputFormat := .page
  output : Option FilePath := none
  usesSecondary : Bool := true
  logLevel : Option Text := none
deriving DecidableEq, Repr, Inhabited

end Command

/-- What the program can do. -/
inductive Command where
  /-- Scan a file. -/
  | file (path : FilePath) (mimeType : Option Text) (options : Command.Options)
  /-- Scan code from a file, or from the standard input if the source is a hyphen. -/
  | code (source : Text) (seed : Option Int) (options : Command.Options)
  /-- Tell the version. -/
  | version
  /-- Tell how to call the program. -/
  | help
deriving DecidableEq, Repr

namespace Command

/-! ## 2. Options -/

/-- The name of an option, its letter if it has one, and whether a value follows it. -/
structure OptionForm where
  name : Text
  letter : Option CodePoint := none
  takesValue : Bool := true

/-- The option that asks for help. -/
def helpForm : OptionForm := { name := "--help", takesValue := false }

/-- The options of both scanning commands. -/
def commonForms : List OptionForm := [{ name := "--format", letter := some 102 },
  { name := "--output", letter := some 111 }, { name := "--no-secondary", takesValue := false },
  { name := "--log-level" }, helpForm]

/-- An option with its value; a flag has the empty one. -/
abbrev Given := Text × Text

/-- What stands before the first equals sign, and after it if there is one. -/
def splitEquals (t : Text) : Text × Option Text :=
  match t.dropWhile (· != 61) with
  | [] => (t, none)
  | _ :: value => (t.takeWhile (· != 61), some value)

/-- The form of a short option. -/
def letterForm? (forms : List OptionForm) (c : CodePoint) : Option OptionForm :=
  forms.find? fun f => f.letter = some c

/-- The option that an argument starts, and the value that stands in the same argument. -/
def formOf? (forms : List OptionForm) (argument : Text) : Option (OptionForm × Option Text) :=
  match argument with
  | 45 :: 45 :: _ =>
    let (name, value) := splitEquals argument
    (forms.find? fun f => f.name = name).map fun f => (f, value)
  | 45 :: c :: value =>
    (letterForm? forms c).map fun f => (f, if value.isEmpty then none else some value)
  | _ => none

/-- The options and the values among arguments; nothing if an option is unknown, lacks its value
or has one that it does not take. -/
def sort? (forms : List OptionForm) : List Text → Option (List Given × List Text)
  | [] => some ([], [])
  | argument :: rest =>
    if argument = "--" then some ([], rest)
    else if argument.head? = some 45 ∧ argument.length ≠ 1 then
      match formOf? forms argument with
      | none => none
      | some (form, value) =>
        if form.takesValue then
          match value with
          | some v => (sort? forms rest).map fun (os, vs) => ((form.name, v) :: os, vs)
          | none =>
            match rest with
            | v :: rest => (sort? forms rest).map fun (os, vs) => ((form.name, v) :: os, vs)
            | [] => none
        else if value.isSome then none
        else (sort? forms rest).map fun (os, vs) => ((form.name, []) :: os, vs)
    else (sort? forms rest).map fun (os, vs) => (os, argument :: vs)

/-- The value of an option. -/
def value? (given : List Given) (name : Text) : Option Text := given.reverse.lookup name

/-- A value that has to be readable if it is there. -/
def optional? {α : Type} (read? : Text → Option α) : Option Text → Option (Option α)
  | none => some none
  | some t => (read? t).map some

/-- The integer that a value writes. -/
def integer? (t : Text) : Option Int :=
  let (negative, t) := Numeral.splitSign (Text.trim t)
  (Numeral.dropUnderscores? t).bind fun ds =>
    if ds.isEmpty || !ds.all Json.isDigit then none
    else some (if negative then -(Json.decimalValue ds : Int) else Json.decimalValue ds)

/-- The options of both scanning commands. -/
def options? (given : List Given) : Option Options := do
  let format ← optional? OutputFormat.ofName? (value? given "--format")
  return {
    format := format.getD .page
    output := (value? given "--output").map FilePath.ofText
    usesSecondary := (value? given "--no-secondary").isNone
    logLevel := value? given "--log-level" }

/-! ## 3. Reading a command line -/

/-- The command for a scan of a file. -/
def fileOf? (given : List Given) (values : List Text) : Option Command := do
  let options ← options? given
  match values with
  | [path] => some (.file (.ofText path) (value? given "--mime-type") options)
  | _ => none

/-- The command for a scan of code. -/
def codeOf? (given : List Given) (values : List Text) : Option Command := do
  let options ← options? given
  let seed ← optional? integer? (value? given "--seed")
  match values with
  | [] => some (.code [45] seed options)
  | [source] => some (.code source seed options)
  | _ => none

/-- The command for the version. -/
def versionOf? (_ : List Given) (values : List Text) : Option Command :=
  if values.isEmpty then some .version else none

/-- The command with the given arguments; whoever asks for help gets it. -/
def withForms? (forms : List OptionForm) (of? : List Given → List Text → Option Command)
    (arguments : List Text) : Option Command :=
  match sort? forms arguments with
  | none => none
  | some (given, values) =>
    if (value? given helpForm.name).isSome then some .help else of? given values

/-- The command of a name with its arguments. -/
def named? (name : Text) (arguments : List Text) : Option Command :=
  if name = "file" then withForms? ({ name := "--mime-type" } :: commonForms) fileOf? arguments
  else if name = "code" then withForms? ({ name := "--seed" } :: commonForms) codeOf? arguments
  else if name = "version" then withForms? [helpForm] versionOf? arguments
  else none

/-- The command of a command line; none if it cannot be understood. -/
def ofArguments? : List Text → Option Command
  | [] => none
  | name :: arguments =>
    if name = helpForm.name then some .help
    else if name = "--" then
      match arguments with
      | [] => none
      | name :: arguments => named? name arguments
    else named? name arguments

end Command
end ThreatScan
