/-
# A pseudo-random generator

The generator of period 2^19937 - 1 with 624 words of state, seeded from a list of words.  The
state is a value: drawing a number gives the next state.
-/
namespace ThreatScan

/-- The state: 624 words and the place of the next one. -/
structure Twister where
  words : Array UInt32
  index : Nat
deriving Repr, DecidableEq

namespace Twister

/-! ## 1. Seeding -/

/-- The number of words in a state. -/
def size : Nat := 624

/-- The distance of the words that are mixed. -/
def shift : Nat := 397

/-- The word at a place. -/
def word (ws : Array UInt32) (i : Nat) : UInt32 := ws.getD i 0

/-- Appends `n` words, each made from the one before. -/
def extend : Nat → Array UInt32 → Array UInt32
  | 0, ws => ws
  | n + 1, ws =>
    let p := word ws (ws.size - 1)
    extend n (ws.push ((1812433253 : UInt32) * (p ^^^ (p >>> 30)) + UInt32.ofNat ws.size))

/-- The words of the state for a seed of one word. -/
def ofWord (s : UInt32) : Array UInt32 := extend (size - 1) #[s]

/-- Mixes the key into the words, `n` steps from place `i` and key place `j`. -/
def mixKey (key : Array UInt32) : Nat → Nat → Nat → Array UInt32 → Array UInt32 × Nat
  | 0, i, _, ws => (ws, i)
  | n + 1, i, j, ws =>
    let p := word ws (i - 1)
    let w := (word ws i ^^^ ((p ^^^ (p >>> 30)) * 1664525)) + word key j + UInt32.ofNat j
    let ws := ws.setIfInBounds i w
    let (ws, i) := if size ≤ i + 1 then (ws.setIfInBounds 0 (word ws (size - 1)), 1) else (ws, i + 1)
    mixKey key n i (if key.size ≤ j + 1 then 0 else j + 1) ws

/-- Mixes the words among themselves, `n` steps from place `i`. -/
def mixSelf : Nat → Nat → Array UInt32 → Array UInt32
  | 0, _, ws => ws
  | n + 1, i, ws =>
    let p := word ws (i - 1)
    let w := (word ws i ^^^ ((p ^^^ (p >>> 30)) * 1566083941)) - UInt32.ofNat i
    let ws := ws.setIfInBounds i w
    if size ≤ i + 1 then mixSelf n 1 (ws.setIfInBounds 0 (word ws (size - 1)))
    else mixSelf n (i + 1) ws

/-- The state for a key of at least one word. -/
def ofKey (key : Array UInt32) : Twister :=
  let (ws, i) := mixKey key (max size key.size) 1 0 (ofWord 19650218)
  ⟨(mixSelf (size - 1) i ws).setIfInBounds 0 0x80000000, size⟩

/-- The words of a number, the lowest first; `fuel` bounds their count. -/
def wordsOf : Nat → Nat → List UInt32
  | 0, _ => []
  | fuel + 1, n => if n = 0 then [] else UInt32.ofNat (n % 2 ^ 32) :: wordsOf fuel (n / 2 ^ 32)

/-- The state for a seed, whose sign does not matter. -/
def ofSeed (seed : Int) : Twister :=
  match wordsOf (Nat.log2 seed.natAbs / 32 + 1) seed.natAbs with
  | [] => ofKey #[0]
  | w :: ws => ofKey (w :: ws).toArray

/-! ## 2. Drawing -/

/-- Replaces `n` words from place `i` on by the next ones. -/
def renew : Nat → Nat → Array UInt32 → Array UInt32
  | 0, _, ws => ws
  | n + 1, i, ws =>
    let y := (word ws i &&& 0x80000000) ||| (word ws ((i + 1) % size) &&& 0x7FFFFFFF)
    let w := word ws ((i + shift) % size) ^^^ (y >>> 1) ^^^ (if y &&& 1 = 0 then 0 else 0x9908B0DF)
    renew n (i + 1) (ws.setIfInBounds i w)

/-- Spreads the bits of a word. -/
def temper (y : UInt32) : UInt32 :=
  let y := y ^^^ (y >>> 11)
  let y := y ^^^ ((y <<< 7) &&& 0x9D2C5680)
  let y := y ^^^ ((y <<< 15) &&& 0xEFC60000)
  y ^^^ (y >>> 18)

/-- The next word. -/
def next (t : Twister) : UInt32 × Twister :=
  let t := if size ≤ t.index then ⟨renew size 0 t.words, 0⟩ else t
  (temper (word t.words t.index), ⟨t.words, t.index + 1⟩)

/-- The next number of `bits` bits, at most 32. -/
def nextBits (t : Twister) (bits : Nat) : Nat × Twister :=
  let (y, t) := t.next
  (y.toNat >>> (32 - bits), t)

/-- The next number below `bound`, which has `bits` bits: draws until one is in range.  The rule
itself sets no limit to the draws; here they are cut off when the fuel is used up, and the number is
zero then. -/
def nextBelow (bound bits : Nat) : Nat → Twister → Nat × Twister
  | 0, t => (0, t)
  | fuel + 1, t =>
    let (r, t) := t.nextBits bits
    if r < bound then (r, t) else nextBelow bound bits fuel t

end Twister
end ThreatScan
