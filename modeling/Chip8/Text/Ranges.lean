set_option autoImplicit false

/-!
# Ranges of characters

Sets of characters given by ranges of code points, as the tables of a character standard give them.

## Main definitions

* `Chip8.Ranges` — a set of characters as a list of ranges.
* `Chip8.Ranges.has` — whether a character is in the set.
-/

namespace Chip8

/-- A set of characters: the first and the last code point of each of its ranges. -/
abbrev Ranges := List (Nat × Nat)

/-- Whether a character is in one of the ranges. -/
def Ranges.has (ranges : Ranges) (c : Char) : Bool :=
  ranges.any fun range => decide (range.1 ≤ c.toNat ∧ c.toNat ≤ range.2)

end Chip8
