/-
# Text

A text is a list of code points.  Scanned content may hold any code point up to U+10FFFF,
the unpaired surrogates U+D800..U+DFFF included, which neither `Char` nor `String` admits;
so `Text` is a list of numbers and `String` serves only for words of the library's own.

Every position, length and cut in this library counts code points.
-/
namespace ThreatScan

/-- A code point; a surrogate may stand alone. -/
abbrev CodePoint := Nat

/-- A sequence of code points. -/
abbrev Text := List CodePoint

namespace Text

/-! ## 1. Between texts and strings -/

/-- The code points of a string. -/
def ofString (s : String) : Text := s.toList.map Char.toNat

instance : Coe String Text := ⟨ofString⟩

/-- A surrogate stands for half of a pair and is no character of its own. -/
def isSurrogate (c : CodePoint) : Bool := 0xD800 ≤ c && c ≤ 0xDFFF

/-- The decimal digits of a number. -/
def ofNat (n : Nat) : Text := ofString (toString n)

/-- The decimal digits of a number, after a minus sign for a negative one. -/
def ofInt (n : Int) : Text := ofString (toString n)

/-! ## 2. Parts of a text -/

/-- `t` starts with `p`. -/
def startsWith (p t : Text) : Bool := p.isPrefixOf t

/-- `t` ends with `p`. -/
def endsWith (p t : Text) : Bool := p.isSuffixOf t

/-- `p` stands somewhere in `t`; the empty text stands everywhere. -/
def occursIn (p : Text) : Text → Bool
  | [] => p.isEmpty
  | c :: t => p.isPrefixOf (c :: t) || occursIn p t

/-- The pieces between the separators `sep`, the current piece being `piece` reversed. -/
def splitGo (sep : CodePoint) : Text → Text → List Text → List Text
  | [], piece, done => (piece.reverse :: done).reverse
  | c :: t, piece, done =>
    if c = sep then splitGo sep t [] (piece.reverse :: done) else splitGo sep t (c :: piece) done

/-- The pieces between the separators: one more than there are separators. -/
def splitOn (sep : CodePoint) (t : Text) : List Text := splitGo sep t [] []

/-- The line feed. -/
def newline : CodePoint := 10

/-- The lines of a text, which only a line feed ends; a text without one is a single line. -/
def lines (t : Text) : List Text := splitOn newline t

/-- The texts joined, with `sep` between neighbours. -/
def join (sep : Text) (ts : List Text) : Text := (ts.intersperse sep).flatten

/-- The last `n` code points. -/
def takeLast (n : Nat) (t : Text) : Text := t.drop (t.length - n)

/-- The part before the end `stop`, which counts back from the end when negative. -/
def takeUpTo (stop : Int) (t : Text) : Text :=
  if 0 ≤ stop then t.take stop.toNat else t.take (t.length - (-stop).toNat)

/-- Keeps the first of equal entries. -/
def firstOfEach {α : Type} [BEq α] (xs : List α) : List α :=
  (xs.foldl (fun seen x => if seen.contains x then seen else x :: seen) []).reverse

/-- `t` on the left of a field of `n` code points. -/
def padRight (n : Nat) (t : Text) : Text := t ++ List.replicate (n - t.length) 32

/-- `t` on the right of a field of `n` code points that `fill` completes. -/
def padLeft (n : Nat) (fill : CodePoint) (t : Text) : Text :=
  List.replicate (n - t.length) fill ++ t

end Text
end ThreatScan
