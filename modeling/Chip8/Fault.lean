import Chip8.Text.Hex

set_option autoImplicit false

/-!
# Machine faults

A machine stops on one of three traps. The report of a fault names what happened, the offending
instruction word and the program counter where it stood; both numbers are written in hexadecimal
and may be any integers.

## Main definitions

* `Chip8.Trap` — the three conditions that stop a machine.
* `Chip8.Fault` — the report of a fault.
* `Chip8.Fault.message` — its text.
-/

namespace Chip8

/-- What stops a machine. -/
inductive Trap where
  /-- The instruction word is outside the opcode table. -/
  | undefinedOpcode
  /-- A call found sixteen return addresses on the stack. -/
  | stackOverflow
  /-- A return found no address on the stack. -/
  | stackUnderflow
  deriving DecidableEq, Repr

/-- The number that stands for a trap in a machine's status; zero stands for no trap. -/
def Trap.code : Trap → Nat
  | .undefinedOpcode => 1
  | .stackOverflow => 2
  | .stackUnderflow => 3

/-- What a fault report is about: a trap, or a fault that is not described further. -/
inductive Fault.Kind where
  /-- A fault without a description of its own. -/
  | general
  /-- One of the traps. -/
  | trapped (trap : Trap)
  deriving DecidableEq, Repr

/-- The report of a fault. -/
structure Fault where
  /-- What happened. -/
  kind : Fault.Kind
  /-- The offending instruction word. -/
  opcode : Int
  /-- The program counter of that word. -/
  pc : Int
  deriving DecidableEq, Repr

/-- The words that open the message of a fault. -/
def Fault.Kind.description : Fault.Kind → String
  | .general => "Machine fault"
  | .trapped .undefinedOpcode => "Undefined opcode"
  | .trapped .stackOverflow => "Stack overflow"
  | .trapped .stackUnderflow => "Stack underflow"

/-- The message of a fault: what happened, then the word in at least four hexadecimal digits and
the program counter in at least three. -/
def Fault.message (fault : Fault) : String :=
  fault.kind.description ++ ": opcode 0x" ++ Hex.padded 4 fault.opcode ++
    " at PC 0x" ++ Hex.padded 3 fault.pc

end Chip8
