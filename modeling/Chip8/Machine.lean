import Chip8.CallStack
import Chip8.Display
import Chip8.Error
import Chip8.Keypad
import Chip8.Opcode
import Chip8.Random
import Chip8.Word

set_option autoImplicit false

/-!
# The machine

The complete state of a machine, and what its surroundings do to it: loading a program, moving the
keys, counting the timers down and asking how it fares. Executing instructions is the matter of
`Chip8.Execution`.

## Main definitions

* `Chip8.FaultRecord` — what a stopped machine remembers of its fault.
* `Chip8.Machine` — the state of a machine.
* `Chip8.Machine.new`, `Chip8.Machine.loadRom`, `Chip8.Machine.boot` — a machine, and a program in
  its memory.
* `Chip8.Machine.press`, `Chip8.Machine.release`, `Chip8.Machine.setKeypad` — the keys.
* `Chip8.Machine.decrementTimers` — one period of the timers.
* `Chip8.Machine.checked` — the machine, or the fault that stopped it.

## Main results

* `Chip8.Machine.reg_setReg` — a register holds what was last loaded into it.
-/

namespace Chip8

/-- What a stopped machine remembers of its fault. -/
structure FaultRecord where
  /-- What stopped the machine. -/
  trap : Trap
  /-- The instruction word. -/
  opcode : UInt16
  /-- The program counter of the word. -/
  pc : UInt16
  deriving DecidableEq, Repr

/-- The report of a recorded fault. -/
def FaultRecord.report (r : FaultRecord) : Fault :=
  { kind := .trapped r.trap, opcode := r.opcode.toNat, pc := r.pc.toNat }

/-- The state of a machine. -/
@[ext] structure Machine where
  /-- The state of the random generator. -/
  randomKey : RandomKey
  /-- The memory. -/
  memory : Memory
  /-- The program counter. Sixteen bits wide; as an address only the low twelve count. -/
  pc : UInt16
  /-- The screen. -/
  display : Display
  /-- The return addresses. -/
  stack : CallStack
  /-- The timer that programs read. -/
  delayTimer : UInt8
  /-- The timer that sounds the buzzer. -/
  soundTimer : UInt8
  /-- The held keys. -/
  keypad : Keypad
  /-- The key pressed last, until a wait for a key looks at it. -/
  lastKey : Option Key
  /-- Whether an instruction is waiting for a key. -/
  awaitingKey : Bool
  /-- The general-purpose registers; the last one doubles as the flag. -/
  registers : Vector UInt8 16
  /-- The index register. Sixteen bits wide; as an address only the low twelve count. -/
  index : UInt16
  /-- The fault that stopped the machine. -/
  fault : Option FaultRecord
  deriving DecidableEq

namespace Machine

/-- A machine without a program. -/
def new (randomKey : RandomKey) : Machine :=
  { randomKey
    memory := .initial
    pc := UInt16.ofNat programStart
    display := .dark
    stack := .empty
    delayTimer := 0
    soundTimer := 0
    keypad := .released
    lastKey := none
    awaitingKey := false
    registers := Vector.replicate 16 0
    index := 0
    fault := none }

/-! ## Programs -/

/-- Copies a program into memory. One that is too large is refused. -/
def loadRom (s : Machine) (rom : List UInt8) : Except Error Machine :=
  if rom.length ≤ romCapacity then
    .ok { s with memory := s.memory.writeBytes programStart rom }
  else .error (.romTooLarge rom.length romCapacity)

/-- A machine seeded and loaded with a program. A seed that is no word of sixty-four bits is
refused before the program is looked at. -/
def boot (seed : Int) (rom : List UInt8) : Except Error Machine :=
  if Word.fits64 seed then (new (.ofSeed seed)).loadRom rom
  else .error (.overflow .word)

/-! ## Keys -/

/-- Holds a key and remembers it as the one pressed last. -/
def press (s : Machine) (key : Key) : Machine :=
  { s with keypad := s.keypad.set key true, lastKey := some key }

/-- Lets go of a key. -/
def release (s : Machine) (key : Key) : Machine :=
  { s with keypad := s.keypad.set key false }

/-- Replaces the states of all keys. This is not a key press. -/
def setKeypad (s : Machine) (pad : Keypad) : Machine :=
  { s with keypad := pad }

/-- Whether the machine waits for a key and none has been pressed since. -/
def isWaiting (s : Machine) : Bool :=
  s.awaitingKey && s.lastKey.isNone

/-! ## Timers -/

/-- Counts both timers down by one, as far as zero. -/
def decrementTimers (s : Machine) : Machine :=
  { s with
    delayTimer := if 0 < s.delayTimer then s.delayTimer - 1 else s.delayTimer
    soundTimer := if 0 < s.soundTimer then s.soundTimer - 1 else s.soundTimer }

/-! ## Faults -/

/-- Whether the machine has stopped on a fault. -/
def isFaulted (s : Machine) : Bool :=
  s.fault.isSome

/-- Marks the machine as stopped by a trap. Where and on which word it stopped is kept from an
earlier fault, and zero without one. -/
def mark (s : Machine) (trap : Trap) : Machine :=
  { s with
    fault := some (match s.fault with
      | some r => { r with trap }
      | none => { trap, opcode := 0, pc := 0 }) }

/-- The machine itself, or the fault that stopped it. -/
def checked (s : Machine) : Except Fault Machine :=
  match s.fault with
  | some r => .error r.report
  | none => .ok s

/-! ## Registers -/

/-- The value of a register. -/
def reg (s : Machine) (x : Register) : UInt8 :=
  s.registers[x]

/-- Loads a value into a register. -/
def setReg (s : Machine) (x : Register) (b : UInt8) : Machine :=
  { s with registers := s.registers.set x b }

/-- A register holds what was last loaded into it. -/
theorem reg_setReg (s : Machine) (x y : Register) (b : UInt8) :
    (s.setReg x b).reg y = if x = y then b else s.reg y := by
  simp [reg, setReg, Vector.getElem_set, Fin.ext_iff]

/-- Loads the flag register. -/
def setFlag (s : Machine) (flag : Bool) : Machine :=
  s.setReg .flag flag.toUInt8

end Machine

end Chip8
