/-
# UTF-8

Bytes are numbers below 256.  `encodedLength` and `encode` give every code point its general
UTF-8 form, so a surrogate takes three bytes, although the standard assigns it no encoding; who
needs bytes that the standard knows has to ask `isSurrogate` first.  `decode` accepts exactly the
sequences that the standard calls well formed and names the offset of the first character that
is not.
-/
import ThreatScan.Text.Basic

namespace ThreatScan
namespace Text

/-! ## 1. Encoding -/

/-- The number of bytes of one code point. -/
def byteCount (c : CodePoint) : Nat :=
  if c < 0x80 then 1 else if c < 0x800 then 2 else if c < 0x10000 then 3 else 4

/-- The bytes of one code point. -/
def encodeOne (c : CodePoint) : List Nat :=
  if c < 0x80 then [c]
  else if c < 0x800 then [0xC0 + c / 0x40, 0x80 + c % 0x40]
  else if c < 0x10000 then [0xE0 + c / 0x1000, 0x80 + c / 0x40 % 0x40, 0x80 + c % 0x40]
  else [0xF0 + c / 0x40000, 0x80 + c / 0x1000 % 0x40, 0x80 + c / 0x40 % 0x40, 0x80 + c % 0x40]

/-- The number of bytes of a text; a surrogate counts three. -/
def encodedLength (t : Text) : Nat := t.foldl (fun n c => n + byteCount c) 0

/-- The bytes of a text. -/
def encode (t : Text) : List Nat := t.flatMap encodeOne

/-! ## 2. Decoding -/

/-- Where the decoder stands between two bytes.  `inside` still owes `owed` bytes, the next of
which lies between `least` and `most`; `value` holds the bits so far and `start` the offset of
the first byte of the character. -/
inductive DecodeState where
  | between
  | inside (owed least most value start : Nat)
deriving Repr, DecidableEq

/-- The state after the first byte of a character, for a byte that may start one. -/
def leadState (b start : Nat) : Option DecodeState :=
  if 0xC2 ≤ b ∧ b ≤ 0xDF then some (.inside 1 0x80 0xBF (b - 0xC0) start)
  else if b = 0xE0 then some (.inside 2 0xA0 0xBF 0 start)
  else if b = 0xED then some (.inside 2 0x80 0x9F 0xD start)
  else if 0xE1 ≤ b ∧ b ≤ 0xEF then some (.inside 2 0x80 0xBF (b - 0xE0) start)
  else if b = 0xF0 then some (.inside 3 0x90 0xBF 0 start)
  else if 0xF1 ≤ b ∧ b ≤ 0xF3 then some (.inside 3 0x80 0xBF (b - 0xF0) start)
  else if b = 0xF4 then some (.inside 3 0x80 0x8F 4 start)
  else none

/-- Decodes the bytes from `offset` on, with `done` the text so far reversed.  The error is
the offset of the first byte of the first character that is not well formed. -/
def decodeGo : List Nat → Nat → DecodeState → Text → Except Nat Text
  | [], _, .between, done => .ok done.reverse
  | [], _, .inside _ _ _ _ start, _ => .error start
  | b :: bs, offset, .between, done =>
    if b < 0x80 then decodeGo bs (offset + 1) .between (b :: done)
    else match leadState b offset with
      | some s => decodeGo bs (offset + 1) s done
      | none => .error offset
  | b :: bs, offset, .inside owed least most value start, done =>
    if b < least ∨ most < b then .error start
    else if owed ≤ 1 then decodeGo bs (offset + 1) .between ((value * 0x40 + (b - 0x80)) :: done)
    else decodeGo bs (offset + 1) (.inside (owed - 1) 0x80 0xBF (value * 0x40 + (b - 0x80)) start) done

/-- The text that the bytes encode, or the offset of the first ill-formed character. -/
def decode (bytes : List Nat) : Except Nat Text := decodeGo bytes 0 .between []

end Text
end ThreatScan
