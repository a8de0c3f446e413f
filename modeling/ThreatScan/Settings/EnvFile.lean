/-
# Settings files

A settings file binds names to values, one binding a line:

    # a comment
    export NAME = value   # another one
    NAME='a value'
    NAME="a value\nof two lines"

A value in quotation marks may hold escapes and line ends; one without ends at the line or at a
comment.  A name without `=` is bound to nothing.  A line that cannot be read is passed over.
Afterwards every `${NAME}` or `${NAME:-default}` in a value stands for the value bound to the
name above it or else in the environment.
-/
import ThreatScan.Text.Blank

namespace ThreatScan
namespace EnvFile

/-! ## 1. Characters -/

/-- A blank within a line. -/
def isInlineBlank (c : CodePoint) : Bool := Text.isBlank c && c != 10 && c != 13

/-- The text without the blanks in front that stand on the same line. -/
def skipInline (t : Text) : Text := t.dropWhile isInlineBlank

/-- A character that ends a line. -/
def isLineEnd (c : CodePoint) : Bool := c = 10 || c = 13

/-- Every line end made a line feed. -/
def normalizeLines : Text → Text
  | 13 :: 10 :: t => 10 :: normalizeLines t
  | 13 :: t => 10 :: normalizeLines t
  | c :: t => c :: normalizeLines t
  | [] => []

/-! ## 2. Quoted values -/

/-- The text up to the first `mark` that no backslash precedes, and what follows; `done` is the
text so far, reversed. -/
def closedAt? (mark : CodePoint) : Text → Text → Option (Text × Text)
  | done, 92 :: c :: t => if c = mark then closedAt? mark (c :: 92 :: done) t
      else closedAt? mark (92 :: done) (c :: t)
  | done, c :: t => if c = mark then some (done.reverse, t) else closedAt? mark (c :: done) t
  | _, [] => none

/-- The text up to the last `mark`, and what follows. -/
def closedLast? (mark : CodePoint) (t : Text) : Option (Text × Text) :=
  let back := t.reverse
  match back.dropWhile (· != mark) with
  | [] => none
  | _ :: before => some (before.reverse, (back.takeWhile (· != mark)).reverse)

/-- The text within quotation marks, the first of which is read, and what follows.  An escaped
mark ends the text only if no other one does. -/
def quoted? (mark : CodePoint) (t : Text) : Option (Text × Text) :=
  (closedAt? mark [] t).or (closedLast? mark t)

/-- The escapes between apostrophes. -/
def singleEscapes : List (CodePoint × CodePoint) := [(92, 92), (39, 39)]

/-- The escapes between double quotation marks. -/
def doubleEscapes : List (CodePoint × CodePoint) :=
  singleEscapes ++ [(34, 34), (97, 7), (98, 8), (102, 12), (110, 10), (114, 13), (116, 9), (118, 11)]

/-- The text with its escapes resolved. -/
def unescape (escapes : List (CodePoint × CodePoint)) : Text → Text
  | 92 :: c :: t =>
    match escapes.lookup c with
    | some d => d :: unescape escapes t
    | none => 92 :: unescape escapes (c :: t)
  | c :: t => c :: unescape escapes t
  | [] => []

/-! ## 3. Bindings -/

/-- A name, and the value bound to it if there is one. -/
abbrev Binding := Text × Option Text

/-- A value without quotation marks up to a comment, which a blank precedes; `isBlank` says
whether the character before was one. -/
def uncommented : Bool → Text → Text
  | _, [] => []
  | isBlank, c :: t =>
    if isBlank && c = 35 then [] else c :: uncommented (Text.isBlank c) t

/-- The value after `=`, and what follows; nothing if a quotation mark is left open. -/
def value? : Text → Option (Text × Text)
  | 39 :: t => (quoted? 39 t).map fun (v, t) => (unescape singleEscapes v, t)
  | 34 :: t => (quoted? 34 t).map fun (v, t) => (unescape doubleEscapes v, t)
  | t =>
    let line := t.takeWhile fun c => !isLineEnd c
    some (Text.trimRight (uncommented false line), t.dropWhile fun c => !isLineEnd c)

/-- What comes before a name. -/
def exportWord : Text := "export"

/-- The text without the word that may come before a name. -/
def skipExport (t : Text) : Text :=
  let rest := t.drop exportWord.length
  if exportWord.isPrefixOf t && (rest.head?.map isInlineBlank).getD false then skipInline rest
  else t

/-- A character of a name without quotation marks. -/
def isNameCharacter (c : CodePoint) : Bool := c != 61 && c != 35 && !Text.isBlank c

/-- A name, and what follows; there is no name before a comment, and nothing at all where a name
is missing. -/
def name? : Text → Option (Option Text × Text)
  | 35 :: t => some (none, 35 :: t)
  | 39 :: t =>
    match t.takeWhile (· != 39), t.dropWhile (· != 39) with
    | c :: name, _ :: rest => some (some (c :: name), rest)
    | _, _ => none
  | t =>
    match t.takeWhile isNameCharacter with
    | [] => none
    | name => some (some name, t.dropWhile isNameCharacter)

/-- What follows a line from here on, its end included. -/
def afterLine (t : Text) : Text := (t.dropWhile fun c => !isLineEnd c).drop 1

/-- What follows the end of the line, which only a comment may come before. -/
def endOfLine? (t : Text) : Option Text :=
  match skipInline t with
  | [] => some []
  | 35 :: t => some (afterLine t)
  | c :: t => if isLineEnd c then some t else none

/-- The value after a name, and what follows; on failure what is left of the text. -/
def bound (t : Text) : Except Text (Option Text × Text) :=
  match skipInline t with
  | 61 :: t =>
    let t := skipInline t
    match value? t with
    | some (v, t) => .ok (some v, t)
    | none => .error t
  | t => .ok (none, t)

/-- The binding at the start of a text that no blank starts, if it can be read, and what follows
its line. -/
def binding (t : Text) : Option Binding × Text :=
  let t := skipExport t
  match name? t with
  | none => (none, afterLine t)
  | some (name, t) =>
    match bound t with
    | .error t => (none, afterLine t)
    | .ok (value, t) =>
      match endOfLine? t with
      | none => (none, afterLine t)
      | some t => (name.map fun n => (n, value), t)

/-- The bindings of a text.  Each one takes up a character at least, so the length of the text is
fuel enough. -/
def bindingsGo : Nat → Text → List Binding
  | 0, _ => []
  | fuel + 1, t =>
    match t.dropWhile Text.isBlank with
    | [] => []
    | c :: t =>
      let (b, rest) := binding (c :: t)
      b.toList ++ bindingsGo fuel rest

/-- The bindings of a text in their order. -/
def bindings (t : Text) : List Binding := bindingsGo t.length t

/-! ## 4. References -/

/-- A name in braces with a default, after the opening brace, and what follows the closing
one. -/
def reference? (t : Text) : Option (Text × Text × Text) :=
  let name := t.takeWhile fun c => c != 125 && c != 58
  match t.dropWhile fun c => c != 125 && c != 58 with
  | 125 :: t => some (name, [], t)
  | 58 :: 45 :: t =>
    match t.dropWhile (· != 125) with
    | _ :: rest => some (name, t.takeWhile (· != 125), rest)
    | [] => none
  | _ => none

/-- The text with its references resolved; `fuel` is at least its length. -/
def resolveGo (valueOf? : Text → Option Text) : Nat → Text → Text
  | 0, t => t
  | fuel + 1, 36 :: 123 :: t =>
    match reference? t with
    | some (name, default, rest) =>
      (valueOf? name).getD default ++ resolveGo valueOf? fuel rest
    | none => 36 :: resolveGo valueOf? fuel (123 :: t)
  | fuel + 1, c :: t => c :: resolveGo valueOf? fuel t
  | _ + 1, [] => []

/-- The text with its references resolved. -/
def resolve (valueOf? : Text → Option Text) (t : Text) : Text :=
  resolveGo valueOf? t.length t

/-- Binds a name anew; it keeps its place if it is bound already. -/
def bind (name : Text) (value : Option Text) : List Binding → List Binding
  | [] => [(name, value)]
  | b :: bs => if b.1 = name then (name, value) :: bs else b :: bind name value bs

/-- What a name stands for: what is bound to it, or else its value in the environment.  A name
that is bound to nothing stands for the empty text. -/
def meaning? (environment : List (Text × Text)) (bound : List Binding) (name : Text) :
    Option Text :=
  match bound.lookup name with
  | some value => some (value.getD [])
  | none => environment.reverse.lookup name

/-- The bindings with their references resolved from the first one to the last, each name once. -/
def resolveAll (environment : List (Text × Text)) (bs : List Binding) : List Binding :=
  bs.foldl (fun done b =>
    bind b.1 (b.2.map (resolve (meaning? environment done))) done) []

/-- The bindings of a settings file. -/
def read (environment : List (Text × Text)) (t : Text) : List Binding :=
  resolveAll environment (bindings (normalizeLines t))

end EnvFile
end ThreatScan
