set_option autoImplicit false

/-!
# Random bytes

A counter-based generator. Its state is a key of two words; the block function scrambles a pair of
words under a key in twenty rounds of additions, rotations and exclusive disjunctions. Each draw
derives two keys from the current one: the first is the next state, the second yields the byte.

## Main definitions

* `Chip8.RandomKey` — the state of the generator.
* `Chip8.RandomKey.ofSeed` — the state that a seed stands for.
* `Chip8.RandomKey.scramble` — the block function.
* `Chip8.RandomKey.next`, `Chip8.RandomKey.byte` — the next state, and the byte that is drawn.
-/

namespace Chip8

/-- A pair of words: the state of the generator, or what the block function works on. -/
structure RandomKey where
  /-- The first word. -/
  first : UInt32
  /-- The second word. -/
  second : UInt32
  deriving DecidableEq, Repr

namespace RandomKey

/-- The key of a seed, of which the low thirty-two bits count. -/
def ofSeed (seed : Int) : RandomKey :=
  ⟨0, UInt32.ofNat (seed % 4294967296).toNat⟩

/-- Rotates a word to the left by fewer than thirty-two places. -/
def rotateLeft (w r : UInt32) : UInt32 :=
  (w <<< r) ||| (w >>> (32 - r))

/-- One round: adds the second word to the first, then rotates the second and combines it with the
sum. -/
def mixRound (p : RandomKey) (r : UInt32) : RandomKey :=
  let a := p.first + p.second
  ⟨a, rotateLeft p.second r ^^^ a⟩

/-- Adds a pair of words to a pair. -/
def addWords (p : RandomKey) (a b : UInt32) : RandomKey :=
  ⟨p.first + a, p.second + b⟩

/-- The rotations of the four rounds of an even group. -/
def evenRotations : List UInt32 := [13, 15, 26, 6]

/-- The rotations of the four rounds of an odd group. -/
def oddRotations : List UInt32 := [17, 29, 16, 24]

/-- The block function: twenty rounds in five groups, with two words of the extended key and the
number of the group added after each group. -/
def scramble (key : RandomKey) (a b : UInt32) : RandomKey :=
  let k0 := key.first
  let k1 := key.second
  let k2 := k0 ^^^ k1 ^^^ 0x1BD11BDA
  let p := addWords ⟨a, b⟩ k0 k1
  let p := addWords (evenRotations.foldl mixRound p) k1 (k2 + 1)
  let p := addWords (oddRotations.foldl mixRound p) k2 (k0 + 2)
  let p := addWords (evenRotations.foldl mixRound p) k0 (k1 + 3)
  let p := addWords (oddRotations.foldl mixRound p) k1 (k2 + 4)
  addWords (evenRotations.foldl mixRound p) k2 (k0 + 5)

/-- The state after a draw. -/
def next (key : RandomKey) : RandomKey :=
  key.scramble 0 0

/-- The byte that a draw yields. -/
def byte (key : RandomKey) : UInt8 :=
  let words := ((key.scramble 0 1).scramble 0 1).scramble 0 0
  (words.first ^^^ words.second).toUInt8

end RandomKey

end Chip8
