set_option autoImplicit false

/-!
# Hexadecimal text

Upper-case hexadecimal numerals of any size, padded with zeros to a least width. A minus sign
stands inside the padded width, so `-1` at width four is `-001`.

## Main definitions

* `Chip8.Hex.digit` — the digit character of a number below sixteen.
* `Chip8.Hex.digits` — the numeral of a natural number, most significant digit first.
* `Chip8.Hex.padded` — the numeral of an integer, filled with zeros to a least width.
-/

namespace Chip8.Hex

/-- The digit of a number below sixteen: `0` to `9`, then `A` to `F`. -/
def digit (d : Nat) : Char :=
  if d < 10 then Char.ofNat (48 + d) else Char.ofNat (55 + d)

/-- The numeral of a natural number, most significant digit first and without leading zeros. -/
def digits (n : Nat) : List Char :=
  if n < 16 then [digit n] else digits (n / 16) ++ [digit (n % 16)]

/-- The characters of `padded`: the sign, the filling zeros, the digits. -/
def paddedChars (width : Nat) (n : Int) : List Char :=
  let sign := if n < 0 then ['-'] else []
  sign ++ (digits n.natAbs).leftpad (width - sign.length) '0'

/-- The numeral of an integer, with zeros between the sign and the digits wherever it would be
narrower than `width`. A numeral that is already wider is written whole. -/
def padded (width : Nat) (n : Int) : String :=
  String.ofList (paddedChars width n)

end Chip8.Hex
