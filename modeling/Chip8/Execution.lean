import Chip8.Instruction
import Chip8.Machine

set_option autoImplicit false

/-!
# Execution

What each instruction does to a machine, and the cycle of fetching and executing one. An
instruction either yields a machine or traps without an effect, so a cycle that traps leaves the
machine as it was, with the fault on record.

## Main definitions

* `Chip8.Instruction.run` — the effect of an instruction.
* `Chip8.Machine.execute` — the effect of an instruction word, with the program counter past it.
* `Chip8.Machine.nextWord`, `Chip8.Machine.advance` — the word to execute next, and the program
  counter moved past it.
* `Chip8.Machine.step` — one cycle.
* `Chip8.Machine.tick` — one cycle, or the fault that stopped the machine.
* `Chip8.Machine.runSteps` — a number of cycles.
-/

namespace Chip8

/-! ## Arithmetic -/

namespace ArithmeticOp

/-- The new value of the first register. -/
def result (op : ArithmeticOp) (a b : UInt8) : UInt8 :=
  match op with
  | .copy => b
  | .or => a ||| b
  | .and => a &&& b
  | .xor => a ^^^ b
  | .add => a + b
  | .sub => a - b
  | .shiftRight => a >>> 1
  | .subFrom => b - a
  | .shiftLeft => a <<< 1

/-- The flag of an operation that has one: carry, absence of borrow, or the bit shifted out. -/
def flag? (op : ArithmeticOp) (a b : UInt8) : Option Bool :=
  match op with
  | .copy | .or | .and | .xor => none
  | .add => some (decide (256 ≤ a.toNat + b.toNat))
  | .sub => some (decide (b ≤ a))
  | .shiftRight => some (a.toNat.testBit 0)
  | .subFrom => some (decide (a ≤ b))
  | .shiftLeft => some (a.toNat.testBit 7)

end ArithmeticOp

/-! ## Effects of the single families -/

namespace Machine

/-- Moves the program counter past the next instruction if the condition holds. -/
def skipIf (s : Machine) (condition : Bool) : Machine :=
  if condition then { s with pc := s.pc + 2 } else s

/-- The key whose number is the low hexadecimal digit of a register. -/
def keyIn (s : Machine) (x : Register) : Key :=
  ⟨(s.reg x).toNat % 16, Nat.mod_lt _ (by decide)⟩

/-- Whether the key named by a register is held. -/
def keyHeld (s : Machine) (x : Register) : Bool :=
  s.keypad.held (s.keyIn x)

/-- Continues at an address. -/
def jumpTo (s : Machine) (target : Nat) : Machine :=
  { s with pc := UInt16.ofNat target }

/-- Performs an operation between two registers. Both are read before the result is written, and
the flag is written last. -/
def arithmetic (s : Machine) (op : ArithmeticOp) (x y : Register) : Machine :=
  let written := s.setReg x (op.result (s.reg x) (s.reg y))
  match op.flag? (s.reg x) (s.reg y) with
  | some flag => written.setFlag flag
  | none => written

/-- The sprite of `height` rows at the index register, placed by two registers. -/
def sprite (s : Machine) (x y : Register) (height : Nat) : Sprite :=
  { memory := s.memory, start := s.index.toNat, height
    left := (s.reg x).toNat, top := (s.reg y).toNat }

/-- Draws a sprite; the flag tells whether a lit pixel was switched off. -/
def drawSprite (s : Machine) (sprite : Sprite) : Machine :=
  { s with display := s.display.draw sprite }.setFlag (s.display.collides sprite)

/-- Takes the key pressed since the wait began, if there is one. Otherwise the wait begins or goes
on: the program counter moves back to the instruction and an earlier key press is forgotten. -/
def awaitKey (s : Machine) (x : Register) : Machine :=
  match s.awaitingKey, s.lastKey with
  | true, some key =>
    { s.setReg x (UInt8.ofNat key.val) with lastKey := none, awaitingKey := false }
  | _, _ => { s with pc := s.pc - 2, lastKey := none, awaitingKey := true }

/-- The hundreds, tens and ones of a byte. -/
def decimalDigits (b : UInt8) : List UInt8 :=
  [b / 100, b / 10 % 10, b % 10]

/-- Stores bytes at the index register. -/
def storeAtIndex (s : Machine) (bytes : List UInt8) : Machine :=
  { s with memory := s.memory.writeBytes s.index.toNat bytes }

/-- Loads the registers up to `x` from the memory at the index register. -/
def loadFromIndex (s : Machine) (x : Register) : Machine :=
  { s with
    registers := Vector.ofFn fun k =>
      if k ≤ x then s.memory.read (s.index.toNat + k.val) else s.reg k }

end Machine

/-! ## Instructions -/

/-- The effect of an instruction on a machine whose program counter is already past it. -/
def Instruction.run (i : Instruction) (s : Machine) : Except Trap Machine :=
  match i with
  | .clear => .ok { s with display := .dark }
  | .ret =>
    match s.stack.pop? with
    | some (address, stack) => .ok { s with stack, pc := address }
    | none => .error .stackUnderflow
  | .jump target => .ok (s.jumpTo target.val)
  | .call target =>
    match s.stack.push? s.pc with
    | some stack => .ok ({ s with stack }.jumpTo target.val)
    | none => .error .stackOverflow
  | .skipEqByte x byte => .ok (s.skipIf (s.reg x == byte))
  | .skipNeByte x byte => .ok (s.skipIf (s.reg x != byte))
  | .skipEqRegister x y => .ok (s.skipIf (s.reg x == s.reg y))
  | .skipNeRegister x y => .ok (s.skipIf (s.reg x != s.reg y))
  | .setByte x byte => .ok (s.setReg x byte)
  | .addByte x byte => .ok (s.setReg x (s.reg x + byte))
  | .arithmetic op x y => .ok (s.arithmetic op x y)
  | .setIndex target => .ok { s with index := UInt16.ofNat target.val }
  | .jumpOffset target => .ok (s.jumpTo ((target.val + (s.reg .offset).toNat) % 4096))
  | .random x mask =>
    .ok { s.setReg x (s.randomKey.byte &&& mask) with randomKey := s.randomKey.next }
  | .draw x y height => .ok (s.drawSprite (s.sprite x y height.val))
  | .skipKey x => .ok (s.skipIf (s.keyHeld x))
  | .skipNoKey x => .ok (s.skipIf (!s.keyHeld x))
  | .readDelay x => .ok (s.setReg x s.delayTimer)
  | .awaitKey x => .ok (s.awaitKey x)
  | .setDelay x => .ok { s with delayTimer := s.reg x }
  | .setSound x => .ok { s with soundTimer := s.reg x }
  | .addIndex x => .ok { s with index := s.index + (s.reg x).toUInt16 }
  | .glyph x =>
    .ok { s with
      index := UInt16.ofNat (Memory.fontStart + (s.reg x).toNat % 16 * Memory.glyphSize) }
  | .storeDecimal x => .ok (s.storeAtIndex (Machine.decimalDigits (s.reg x)))
  | .storeRegisters x => .ok (s.storeAtIndex (s.registers.toList.take (x.val + 1)))
  | .loadRegisters x => .ok (s.loadFromIndex x)

namespace Machine

/-- The effect of an instruction word, or the trap that it springs. -/
def attempt (s : Machine) (w : Int) : Except Trap Machine :=
  match Instruction.decode? w with
  | some i => i.run s
  | none => .error .undefinedOpcode

/-- Executes an instruction word on a machine whose program counter is already past it. A trap is
marked and has no other effect; an earlier fault does not keep the word from being executed. -/
def execute (s : Machine) (w : Int) : Machine :=
  match s.attempt w with
  | .ok s' => s'
  | .error trap => s.mark trap

/-! ## Cycles -/

/-- The word at the program counter. -/
def nextWord (s : Machine) : UInt16 :=
  s.memory.readWord s.pc.toNat

/-- The machine with its program counter past the word at the program counter. -/
def advance (s : Machine) : Machine :=
  { s with pc := s.pc + 2 }

/-- One cycle. A machine that has stopped stays as it is. A trap stops the machine before the
instruction: nothing but the fault record changes. -/
def step (s : Machine) : Machine :=
  if s.isFaulted then s
  else
    match s.advance.attempt s.nextWord.toNat with
    | .ok s' => s'
    | .error trap => { s with fault := some { trap, opcode := s.nextWord, pc := s.pc } }

/-- One cycle, or the fault that stopped the machine. -/
def tick (s : Machine) : Except Fault Machine :=
  s.step.checked

/-- A number of cycles. -/
def runSteps (s : Machine) (n : Nat) : Machine :=
  n.repeat step s

end Machine

end Chip8
