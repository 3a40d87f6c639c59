set_option autoImplicit false

/-!
# Instruction words

An instruction word is an integer of which only the low sixteen bits count, in two's complement.
Its four hexadecimal digits are read as a tag, two register numbers and a nibble; the last two
digits also form a byte and the last three an address.

## Main definitions

* `Chip8.Fields` — the fields of an instruction word.
* `Chip8.Fields.ofWord` — how a word splits into fields.
* `Chip8.Opcode.isDefined` — whether a word belongs to the opcode table.
-/

namespace Chip8

/-- The number of a general-purpose register. -/
abbrev Register := Fin 16

/-- The register that receives carries and collisions. -/
def Register.flag : Register := 15

/-- The register that a jump with offset adds. -/
def Register.offset : Register := 0

/-- The fields of an instruction word. They overlap: `n`, `nn` and `nnn` share their low digits,
and `nn` covers `y`. -/
structure Fields where
  /-- The first hexadecimal digit, which selects the family. -/
  tag : Fin 16
  /-- The second digit, a register number. -/
  x : Register
  /-- The third digit, a register number. -/
  y : Register
  /-- The last digit. -/
  n : Fin 16
  /-- The last two digits. -/
  nn : UInt8
  /-- The last three digits. -/
  nnn : Fin 4096
  deriving DecidableEq, Repr

/-- The low sixteen bits of a word, in two's complement. -/
def Opcode.low (w : Int) : Nat :=
  (w % 65536).toNat

/-- Splits a word into its fields. -/
def Fields.ofWord (w : Int) : Fields :=
  let low := Opcode.low w
  { tag := Fin.ofNat 16 (low / 4096)
    x := Fin.ofNat 16 (low / 256)
    y := Fin.ofNat 16 (low / 16)
    n := Fin.ofNat 16 low
    nn := UInt8.ofNat low
    nnn := Fin.ofNat 4096 low }

namespace Opcode

/-- The low bytes of the system family. -/
def systemBytes : List UInt8 := [0xE0, 0xEE]

/-- The last digits of the arithmetic family. -/
def arithmeticDigits : List (Fin 16) := [0x0, 0x1, 0x2, 0x3, 0x4, 0x5, 0x6, 0x7, 0xE]

/-- The low bytes of the keypad family. -/
def keypadBytes : List UInt8 := [0x9E, 0xA1]

/-- The low bytes of the miscellaneous family. -/
def miscBytes : List UInt8 := [0x07, 0x0A, 0x15, 0x18, 0x1E, 0x29, 0x33, 0x55, 0x65]

/-- Whether a word belongs to the opcode table. Ten of the sixteen families use every word, the
others restrict their last digit or their low byte, and the system family its second digit too. -/
def isDefined (w : Int) : Bool :=
  let f := Fields.ofWord w
  match f.tag with
  | 0x0 => f.x == 0 && systemBytes.contains f.nn
  | 0x5 => f.n == 0
  | 0x8 => arithmeticDigits.contains f.n
  | 0x9 => f.n == 0
  | 0xE => keypadBytes.contains f.nn
  | 0xF => miscBytes.contains f.nn
  | _ => true

end Opcode

end Chip8
