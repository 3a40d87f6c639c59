set_option autoImplicit false

/-!
# Numerals at the start of text

A numeral is a row of decimal digits. In front of it there may be blanks and a sign, and behind it
there may be anything.

## Main definitions

* `Chip8.Numeral.value` — the number that digits stand for.
* `Chip8.Numeral.leading?` — the integer at the start of characters, and what is behind it.
-/

namespace Chip8.Numeral

/-- The number that decimal digits stand for. -/
def value (digits : List Char) : Nat :=
  digits.foldl (fun n c => 10 * n + (c.toNat - '0'.toNat)) 0

/-- Whether a character is a blank that may stand before a sign. -/
def isBlank (c : Char) : Bool :=
  c.isWhitespace || c == '\x0b' || c == '\x0c'

/-- The integer at the start of characters, and the characters behind it. There must be at least
one digit. -/
def leading? (chars : List Char) : Option (Int × List Char) :=
  let signed (isNegative : Bool) (chars : List Char) : Option (Int × List Char) :=
    let digits := chars.takeWhile Char.isDigit
    let n : Nat := value digits
    if digits.isEmpty then none
    else some (if isNegative then -(n : Int) else n, chars.drop digits.length)
  match chars.dropWhile isBlank with
  | '-' :: rest => signed true rest
  | '+' :: rest => signed false rest
  | rest => signed false rest

end Chip8.Numeral
