/-
# The nature of an input

What an input seems to be: the media type that the ending of a file name stands for, and the
language that the words of a piece of code suggest.
-/
import ThreatScan.Text.Case

namespace ThreatScan

/-! ## 1. Media types -/

namespace MediaType

/-- The media types of the known endings. -/
def ofEnding : List (Text × Text) := [
  ("exe", "application/x-executable"), ("zip", "application/zip"),
  ("js", "application/javascript"), ("py", "text/x-python"), ("java", "text/x-java"),
  ("cpp", "text/x-c++src"), ("c", "text/x-csrc"), ("php", "application/x-php"),
  ("dll", "application/x-msdownload"), ("msi", "application/x-msi")]

/-- The media type of any other file. -/
def unknown : Text := "application/octet-stream"

/-- The media type of code. -/
def code : Text := "text/plain"

/-- What follows the last point of a name, in lower case; nothing if there is no point. -/
def ending (name : Text) : Text :=
  if name.contains 46 then
    Text.lowercase (name.reverse.takeWhile fun c => c != 46).reverse
  else []

/-- The media type of a file with the given name. -/
def ofName (name : Text) : Text := (ofEnding.lookup (ending name)).getD unknown

end MediaType

/-! ## 2. Languages -/

/-- The words by which a language is known. -/
structure Language where
  name : Text
  marks : List Text
  /-- All the words have to be there, not only one of them. -/
  needsAll : Bool := false

namespace Language

/-- The known languages; the first one that fits is taken. -/
def known : List Language := [
  ⟨"Python", ["import ", "def "], true⟩,
  ⟨"JavaScript", ["function ", "const ", "let "], false⟩,
  ⟨"Java", ["public class ", "import java"], false⟩,
  ⟨"C/C++", ["#include", "int main"], false⟩,
  ⟨"PHP", ["<?php"], false⟩]

/-- The name for code of no known language. -/
def unknown : Text := "Auto-detected"

/-- The code has the words of the language. -/
def fits (l : Language) (code : Text) : Bool :=
  if l.needsAll then l.marks.all (Text.occursIn · code) else l.marks.any (Text.occursIn · code)

/-- The name of the language of code. -/
def ofCode (code : Text) : Text := ((known.find? (·.fits code)).map (·.name)).getD unknown

end Language
end ThreatScan
