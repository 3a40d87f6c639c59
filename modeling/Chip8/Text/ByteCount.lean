import Chip8.Text.Decimal

set_option autoImplicit false

/-!
# Numbers of bytes as text

A number of bytes is told in the largest unit of which there is at least one, each unit being 1024
times the one before, with three significant digits: `768. GiB`, `5.46 PiB`.

## Main definitions

* `Chip8.ByteCount.significant` — a quotient with three significant digits.
* `Chip8.ByteCount.text` — a number of bytes as text.
-/

namespace Chip8.ByteCount

open Chip8.Decimal (roundDiv tenPow)

/-- The names of the units above a single byte. -/
def units : List String :=
  ["KiB", "MiB", "GiB", "TiB", "PiB", "EiB"]

/-- The quotient `num / den` with a number of decimal places, and with a point in any case. -/
def pointed (places num den : Nat) : String :=
  let scaled := roundDiv (num * tenPow places) den
  let part := String.ofList ((toString (scaled % tenPow places)).toList.leftpad places '0')
  toString (scaled / tenPow places) ++ "." ++ (if places = 0 then "" else part)

/-- The quotient `num / den` with three significant digits, or with all digits before the point if
these are more. -/
def significant (num den : Nat) : String :=
  if roundDiv (num * 100) den < 1000 then pointed 2 num den
  else if roundDiv (num * 10) den < 1000 then pointed 1 num den
  else pointed 0 num den

/-- The unit in which a number of bytes is told: how often the factor 1024 goes into it. A number
that rounds to 1024 of one unit is told in the next one. -/
def scale (bytes : Nat) : Nat :=
  let step := Nat.log2 bytes / 10
  if roundDiv bytes (Nat.pow 1024 step) = 1024 then step + 1 else step

/-- A number of bytes as text. What is beyond all units is told in the last one. -/
def text (bytes : Nat) : String :=
  match scale bytes with
  | 0 => toString bytes ++ " bytes"
  | step + 1 =>
    let step := min step (units.length - 1)
    significant bytes (Nat.pow 1024 (step + 1)) ++ " " ++ units.getD step ""

end Chip8.ByteCount
