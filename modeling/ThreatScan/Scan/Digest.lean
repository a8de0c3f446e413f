/-
# Content digests

A report names its content by the first digits of the SHA-256 digest of the UTF-8 bytes.
-/
import ThreatScan.Failure
import ThreatScan.Text.Utf8

namespace ThreatScan

/-! ## 1. The digest of bytes -/

namespace Sha256

/-- The round constants. -/
def constants : Array UInt32 := #[
  0x428a2f98, 0x71374491, 0xb5c0fbcf, 0xe9b5dba5, 0x3956c25b, 0x59f111f1, 0x923f82a4, 0xab1c5ed5,
  0xd807aa98, 0x12835b01, 0x243185be, 0x550c7dc3, 0x72be5d74, 0x80deb1fe, 0x9bdc06a7, 0xc19bf174,
  0xe49b69c1, 0xefbe4786, 0x0fc19dc6, 0x240ca1cc, 0x2de92c6f, 0x4a7484aa, 0x5cb0a9dc, 0x76f988da,
  0x983e5152, 0xa831c66d, 0xb00327c8, 0xbf597fc7, 0xc6e00bf3, 0xd5a79147, 0x06ca6351, 0x14292967,
  0x27b70a85, 0x2e1b2138, 0x4d2c6dfc, 0x53380d13, 0x650a7354, 0x766a0abb, 0x81c2c92e, 0x92722c85,
  0xa2bfe8a1, 0xa81a664b, 0xc24b8b70, 0xc76c51a3, 0xd192e819, 0xd6990624, 0xf40e3585, 0x106aa070,
  0x19a4c116, 0x1e376c08, 0x2748774c, 0x34b0bcb5, 0x391c0cb3, 0x4ed8aa4a, 0x5b9cca4f, 0x682e6ff3,
  0x748f82ee, 0x78a5636f, 0x84c87814, 0x8cc70208, 0x90befffa, 0xa4506ceb, 0xbef9a3f7, 0xc67178f2]

/-- The chaining value: eight words. -/
structure State where
  a : UInt32
  b : UInt32
  c : UInt32
  d : UInt32
  e : UInt32
  f : UInt32
  g : UInt32
  h : UInt32
deriving DecidableEq, Repr

/-- The first chaining value. -/
def initial : State := ⟨0x6a09e667, 0xbb67ae85, 0x3c6ef372, 0xa54ff53a, 0x510e527f, 0x9b05688c,
  0x1f83d9ab, 0x5be0cd19⟩

/-- The sum of two chaining values, word by word. -/
def State.add (s t : State) : State :=
  ⟨s.a + t.a, s.b + t.b, s.c + t.c, s.d + t.d, s.e + t.e, s.f + t.f, s.g + t.g, s.h + t.h⟩

/-- The words of a chaining value. -/
def State.words (s : State) : List UInt32 := [s.a, s.b, s.c, s.d, s.e, s.f, s.g, s.h]

/-- Rotates a word to the right. -/
def rotate (x : UInt32) (n : UInt32) : UInt32 := (x >>> n) ||| (x <<< (32 - n))

/-- The word at a place of the schedule. -/
def word (ws : Array UInt32) (i : Nat) : UInt32 := ws.getD i 0

/-- Appends `n` words to the schedule. -/
def schedule : Nat → Array UInt32 → Array UInt32
  | 0, ws => ws
  | n + 1, ws =>
    let x := word ws (ws.size - 15)
    let y := word ws (ws.size - 2)
    let s0 := rotate x 7 ^^^ rotate x 18 ^^^ (x >>> 3)
    let s1 := rotate y 17 ^^^ rotate y 19 ^^^ (y >>> 10)
    schedule n (ws.push (word ws (ws.size - 16) + s0 + word ws (ws.size - 7) + s1))

/-- `n` rounds from round `i` on. -/
def rounds (ws : Array UInt32) : Nat → Nat → State → State
  | 0, _, s => s
  | n + 1, i, s =>
    let s1 := rotate s.e 6 ^^^ rotate s.e 11 ^^^ rotate s.e 25
    let ch := (s.e &&& s.f) ^^^ (~~~s.e &&& s.g)
    let t1 := s.h + s1 + ch + word constants i + word ws i
    let s0 := rotate s.a 2 ^^^ rotate s.a 13 ^^^ rotate s.a 22
    let maj := (s.a &&& s.b) ^^^ (s.a &&& s.c) ^^^ (s.b &&& s.c)
    rounds ws n (i + 1) ⟨t1 + (s0 + maj), s.a, s.b, s.c, s.d + t1, s.e, s.f, s.g⟩

/-- The chaining value after a block of sixteen words. -/
def compress (s : State) (block : Array UInt32) : State :=
  s.add (rounds (schedule 48 block) 64 0 s)

/-- A message that is being read: the chaining value after its full blocks, the words of the block
that is being filled, and the `filled` bytes of the next word. -/
structure Reading where
  state : State := initial
  block : Array UInt32 := #[]
  word : Nat := 0
  filled : Nat := 0

/-- Reads one byte more; a full block is compressed. -/
def Reading.push (r : Reading) (b : Nat) : Reading :=
  let word := r.word * 256 + b
  if r.filled < 3 then { r with word, filled := r.filled + 1 }
  else
    let block := r.block.push (UInt32.ofNat word)
    if block.size < 16 then ⟨r.state, block, 0, 0⟩
    else ⟨compress r.state block, #[], 0, 0⟩

/-- The lowest `count` bytes of a number, the highest one first. -/
def bigEndian : Nat → Nat → List Nat
  | 0, _ => []
  | count + 1, n => bigEndian count (n / 256) ++ [n % 256]

/-- What follows a message of `length` bytes: a one bit, zeros, and the number of bits, up to a
multiple of 64 bytes. -/
def padding (length : Nat) : List Nat :=
  128 :: List.replicate ((119 - length % 64) % 64) 0 ++ bigEndian 8 (8 * length)

/-- The hexadecimal digits of the digest of a message of `length` bytes that has been read. -/
def Reading.hex (r : Reading) (length : Nat) : Text :=
  ((padding length).foldl push r).state.words.flatMap fun w => Text.hexDigits 8 w.toNat

/-- The message that a text encodes, read. -/
def readText (t : Text) : Reading :=
  t.foldl (fun r c => (Text.encodeOne c).foldl Reading.push r) {}

end Sha256

/-! ## 2. The name of a content -/

namespace Digest

/-- The first digits of a digest as a report shows them; a negative length counts from the end. -/
def shown (length : Int) (hex : Text) : Text := "SHA256: " ++ Text.takeUpTo length hex ++ "..."

/-- The digest of a text as a report shows it.  A text with a surrogate has no bytes. -/
def ofText (length : Int) (t : Text) : Except Failure Text :=
  if t.any Text.isSurrogate then .error .unhashable
  else .ok (shown length ((Sha256.readText t).hex (Text.encodedLength t)))

end Digest
end ThreatScan
