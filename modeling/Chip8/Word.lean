set_option autoImplicit false

/-!
# Machine words of the host

Integers here have no bounds, but some of them pass through words of thirty-two or sixty-four bits
with a sign.

## Main definitions

* `Chip8.Word.fits32`, `Chip8.Word.fits64` — whether an integer is such a word.
* `Chip8.Word.low32`, `Chip8.Word.low64` — the word of the low bits of an integer.
-/

namespace Chip8.Word

/-- Whether an integer is a word of thirty-two bits with a sign. -/
def fits32 (n : Int) : Bool :=
  decide (-0x80000000 ≤ n ∧ n < 0x80000000)

/-- Whether an integer is a word of sixty-four bits with a sign. -/
def fits64 (n : Int) : Bool :=
  decide (-0x8000000000000000 ≤ n ∧ n < 0x8000000000000000)

/-- The word that the low thirty-two bits of an integer make, with a sign. -/
def low32 (n : Int) : Int :=
  Int.bmod n 0x100000000

/-- The word that the low sixty-four bits of an integer make, with a sign. -/
def low64 (n : Int) : Int :=
  Int.bmod n 0x10000000000000000

/-- A word of thirty-two bits is the word of its own low bits. -/
theorem low32_eq_self {n : Int} (h : fits32 n = true) : low32 n = n := by
  simp only [fits32, decide_eq_true_eq] at h
  rw [low32, Int.bmod_def]
  split <;> omega

end Chip8.Word
