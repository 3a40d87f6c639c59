import Chip8.Opcode

set_option autoImplicit false

/-!
# Instructions

The thirty-four operations of the machine as a type, with operands of the width they are read at,
and the decoder from instruction words. A word outside the opcode table decodes to nothing.

## Main definitions

* `Chip8.ArithmeticOp` — the nine operations between two registers.
* `Chip8.Instruction` — an operation with its operands.
* `Chip8.Instruction.decode?` — the operation that a word denotes.
-/

namespace Chip8

/-- The operations of the arithmetic family, on the registers `x` and `y`. -/
inductive ArithmeticOp where
  /-- Copies `y` to `x`. -/
  | copy
  /-- Bitwise disjunction. -/
  | or
  /-- Bitwise conjunction. -/
  | and
  /-- Bitwise exclusive disjunction. -/
  | xor
  /-- Sum; the flag is the carry. -/
  | add
  /-- Difference `x - y`; the flag is set when there is no borrow. -/
  | sub
  /-- Halves `x`; the flag is the bit shifted out. -/
  | shiftRight
  /-- Difference `y - x`; the flag is set when there is no borrow. -/
  | subFrom
  /-- Doubles `x`; the flag is the bit shifted out. -/
  | shiftLeft
  deriving DecidableEq, Repr

/-- An operation of the machine with its operands. -/
inductive Instruction where
  /-- Darkens the whole screen. -/
  | clear
  /-- Returns to the address on top of the stack. -/
  | ret
  /-- Continues at an address. -/
  | jump (target : Fin 4096)
  /-- Pushes the return address and continues at an address. -/
  | call (target : Fin 4096)
  /-- Skips the next instruction if a register equals a byte. -/
  | skipEqByte (x : Register) (byte : UInt8)
  /-- Skips the next instruction unless a register equals a byte. -/
  | skipNeByte (x : Register) (byte : UInt8)
  /-- Skips the next instruction if two registers are equal. -/
  | skipEqRegister (x y : Register)
  /-- Skips the next instruction unless two registers are equal. -/
  | skipNeRegister (x y : Register)
  /-- Loads a byte into a register. -/
  | setByte (x : Register) (byte : UInt8)
  /-- Adds a byte to a register and leaves the flag alone. -/
  | addByte (x : Register) (byte : UInt8)
  /-- An operation between two registers. -/
  | arithmetic (op : ArithmeticOp) (x y : Register)
  /-- Loads an address into the index register. -/
  | setIndex (target : Fin 4096)
  /-- Continues at an address plus the value of register zero. -/
  | jumpOffset (target : Fin 4096)
  /-- Loads a random byte, masked, into a register. -/
  | random (x : Register) (mask : UInt8)
  /-- Draws a sprite of `height` rows at the position held by two registers. -/
  | draw (x y : Register) (height : Fin 16)
  /-- Skips the next instruction if the key named by a register is held. -/
  | skipKey (x : Register)
  /-- Skips the next instruction unless the key named by a register is held. -/
  | skipNoKey (x : Register)
  /-- Reads the delay timer into a register. -/
  | readDelay (x : Register)
  /-- Waits for a key press and stores the key in a register. -/
  | awaitKey (x : Register)
  /-- Sets the delay timer from a register. -/
  | setDelay (x : Register)
  /-- Sets the sound timer from a register. -/
  | setSound (x : Register)
  /-- Adds a register to the index register. -/
  | addIndex (x : Register)
  /-- Points the index register at the glyph of a hexadecimal digit. -/
  | glyph (x : Register)
  /-- Stores the three decimal digits of a register. -/
  | storeDecimal (x : Register)
  /-- Stores the registers from zero up to `x`. -/
  | storeRegisters (x : Register)
  /-- Loads the registers from zero up to `x`. -/
  | loadRegisters (x : Register)
  deriving DecidableEq, Repr

/-- The arithmetic operation selected by the last digit of a word. -/
def ArithmeticOp.ofDigit? (n : Fin 16) : Option ArithmeticOp :=
  match n with
  | 0x0 => some .copy
  | 0x1 => some .or
  | 0x2 => some .and
  | 0x3 => some .xor
  | 0x4 => some .add
  | 0x5 => some .sub
  | 0x6 => some .shiftRight
  | 0x7 => some .subFrom
  | 0xE => some .shiftLeft
  | _ => none

namespace Instruction

/-- The system operation selected by the low byte of a word. -/
def system? (nn : UInt8) : Option Instruction :=
  match nn with
  | 0xE0 => some .clear
  | 0xEE => some .ret
  | _ => none

/-- The keypad operation on register `x` selected by the low byte of a word. -/
def keypad? (x : Register) (nn : UInt8) : Option Instruction :=
  match nn with
  | 0x9E => some (.skipKey x)
  | 0xA1 => some (.skipNoKey x)
  | _ => none

/-- The miscellaneous operation on register `x` selected by the low byte of a word. -/
def misc? (x : Register) (nn : UInt8) : Option Instruction :=
  match nn with
  | 0x07 => some (.readDelay x)
  | 0x0A => some (.awaitKey x)
  | 0x15 => some (.setDelay x)
  | 0x18 => some (.setSound x)
  | 0x1E => some (.addIndex x)
  | 0x29 => some (.glyph x)
  | 0x33 => some (.storeDecimal x)
  | 0x55 => some (.storeRegisters x)
  | 0x65 => some (.loadRegisters x)
  | _ => none

/-- The operation that the fields of a word denote, or nothing outside the opcode table. -/
def ofFields? (f : Fields) : Option Instruction :=
  match f.tag with
  | 0x0 => if f.x.val = 0 then system? f.nn else none
  | 0x1 => some (.jump f.nnn)
  | 0x2 => some (.call f.nnn)
  | 0x3 => some (.skipEqByte f.x f.nn)
  | 0x4 => some (.skipNeByte f.x f.nn)
  | 0x5 => if f.n.val = 0 then some (.skipEqRegister f.x f.y) else none
  | 0x6 => some (.setByte f.x f.nn)
  | 0x7 => some (.addByte f.x f.nn)
  | 0x8 => (ArithmeticOp.ofDigit? f.n).map fun op => .arithmetic op f.x f.y
  | 0x9 => if f.n.val = 0 then some (.skipNeRegister f.x f.y) else none
  | 0xA => some (.setIndex f.nnn)
  | 0xB => some (.jumpOffset f.nnn)
  | 0xC => some (.random f.x f.nn)
  | 0xD => some (.draw f.x f.y f.n)
  | 0xE => keypad? f.x f.nn
  | _ => misc? f.x f.nn

/-- The operation that a word denotes, or nothing for a word outside the opcode table. -/
def decode? (w : Int) : Option Instruction :=
  ofFields? (Fields.ofWord w)

end Instruction

end Chip8
