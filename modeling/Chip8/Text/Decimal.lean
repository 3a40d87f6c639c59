set_option autoImplicit false

/-!
# Decimal text

Decimal numerals in the two shapes that messages need: an integer with its digits grouped in
threes, and a binary floating-point number with a fixed number of decimal places. The second is
exact: the value held by the sixty-four bits is rounded once, to the nearest decimal of that many
places, and a tie goes to the even neighbour.

## Main definitions

* `Chip8.Decimal.grouped` — an integer with a comma before every group of three digits.
* `Chip8.Decimal.isWritable` — whether an integer has few enough digits to be written.
* `Chip8.Decimal.Binary` — a finite binary floating-point number as sign, mantissa and exponent.
* `Chip8.Decimal.fixed` — a floating-point number with a fixed number of decimal places.
* `Chip8.Decimal.alignRight` — text filled with blanks on the left to a least width.
-/

namespace Chip8.Decimal

/-- Text filled with blanks on the left to at least `width` characters. -/
def alignRight (width : Nat) (text : String) : String :=
  String.ofList (text.toList.leftpad width ' ')

/-! ## Integers -/

/-- Digits, least significant first, with a comma after every third digit that has a successor. -/
def groupReversed : List Char → List Char
  | a :: b :: c :: d :: rest => a :: b :: c :: ',' :: groupReversed (d :: rest)
  | few => few

/-- An integer with its digits grouped in threes: `-1234567` is `-1,234,567`. -/
def grouped (n : Int) : String :=
  let sign := if n < 0 then "-" else ""
  sign ++ String.ofList (groupReversed (toString n.natAbs).toList.reverse).reverse

/-! ## Limits -/

/-- The greatest number of digits of a numeral that is read or written. -/
def mostDigits : Nat := 4300

/-- Whether an integer has a numeral that can be written. -/
def isWritable (n : Int) : Bool :=
  decide (n.natAbs < Nat.pow 10 mostDigits)

/-- How it is told that a numeral has too many digits, with their number if they were counted. -/
def tooManyDigits (digits? : Option Nat) : String :=
  let found :=
    match digits? with
    | some digits => ": value has " ++ toString digits ++ " digits"
    | none => ""
  "Exceeds the limit (" ++ toString mostDigits ++ " digits) for integer string conversion" ++
    found ++ "; use sys.set_int_max_str_digits() to increase the limit"

/-! ## Floating-point numbers -/

/-- The quotient `num / den` rounded to the nearest integer, a tie to the even neighbour. -/
def roundDiv (num den : Nat) : Nat :=
  let q := num / den
  let r := num % den
  if 2 * r < den then q
  else if den < 2 * r then q + 1
  else if q % 2 = 0 then q
  else q + 1

/-- The number `± mantissa * 2 ^ exponent`. Zero keeps its sign. -/
structure Binary where
  /-- Whether the sign bit is set. -/
  negative : Bool
  /-- The integer mantissa. -/
  mantissa : Nat
  /-- The power of two that scales the mantissa. -/
  exponent : Int
  deriving DecidableEq, Repr

/-- The leading bit that a normal number has in front of its fifty-two bits of fraction. -/
def implicitBit : Nat := 0x10000000000000

/-- The sign, mantissa and exponent that the bits of a finite floating-point number hold. -/
def Binary.ofFloat (x : Float) : Binary :=
  let bits : Nat := x.toBits.toNat
  let biased : Nat := bits / implicitBit % 2048
  let fraction : Nat := bits % implicitBit
  { negative := decide (bits / implicitBit / 2048 = 1)
    mantissa := if biased = 0 then fraction else fraction + implicitBit
    exponent := if biased = 0 then -1074 else (biased : Int) - 1075 }

/-- A power of ten. -/
def tenPow (places : Nat) : Nat :=
  Nat.pow 10 places

/-- The magnitude of a binary number in units of `10 ^ -places`, rounded half to even. -/
def Binary.scaled (places : Nat) (b : Binary) : Nat :=
  let whole := b.mantissa * tenPow places
  if 0 ≤ b.exponent then whole * Nat.pow 2 b.exponent.toNat
  else roundDiv whole (Nat.pow 2 (-b.exponent).toNat)

/-- A binary number with exactly `places` decimal places. A negative number keeps its sign even
when it rounds to zero. -/
def Binary.fixed (places : Nat) (b : Binary) : String :=
  let units := b.scaled places
  let sign := if b.negative then "-" else ""
  let whole := toString (units / tenPow places)
  let part := String.ofList ((toString (units % tenPow places)).toList.leftpad places '0')
  if places = 0 then sign ++ whole else sign ++ whole ++ "." ++ part

/-- A floating-point number with exactly `places` decimal places; an infinite one by its name. -/
def fixed (places : Nat) (x : Float) : String :=
  if x.isInf then (if x < 0 then "-inf" else "inf")
  else (Binary.ofFloat x).fixed places

end Chip8.Decimal
