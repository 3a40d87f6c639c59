import Chip8.Error
import Chip8.Mnemonic
import Chip8.Text.Decimal

set_option autoImplicit false

/-!
# Log records

A record keeps what happened, when, and at which level; its text is made when it is shown. Times
are readings of a clock in whole milliseconds. Seconds are floating-point numbers, and the time
between two readings is the difference of the two in seconds.

## Main definitions

* `Chip8.Clock.elapsed` — the seconds between two readings.
* `Chip8.Entry` — what a record tells.
* `Chip8.Entry.text` — how it is told.
* `Chip8.Record` — an entry with its time and level.
-/

namespace Chip8

/-! ## Time -/

/-- A reading of a clock in seconds. -/
def Clock.seconds (ms : Int) : Float :=
  let magnitude := Float.ofScientific ms.natAbs true 3
  if ms < 0 then -magnitude else magnitude

/-- The magnitude from which on a number has no floating-point number: halfway from the greatest of
these to the next power of two, where it would be rounded up. -/
@[irreducible] def Clock.beyond : Nat := Nat.pow 2 1024 - Nat.pow 2 970

/-- Whether a reading of a clock has a number of seconds. -/
def Clock.isReadable (ms : Int) : Bool :=
  decide (ms.natAbs < 1000 * beyond)

/-- The seconds from one reading of a clock to another. -/
def Clock.elapsed (start now : Int) : Float :=
  seconds now - seconds start

/-- Whether a number of cycles over some seconds has a rate: once time has passed, the cycles have
to have a floating-point number. -/
def Clock.hasRate (cycles : Int) (elapsed : Float) : Bool :=
  decide (cycles.natAbs < beyond) || !(decide (0 < elapsed))

/-- The cycles per second over some seconds, and zero unless time has passed. -/
def Clock.rate (cycles : Int) (elapsed : Float) : Float :=
  if 0 < elapsed then Float.ofInt cycles / elapsed else 0

/-! ## Entries -/

/-- What a record tells. -/
inductive Entry where
  /-- A message in its own words. -/
  | message (words : String)
  /-- A program was read. -/
  | romLoaded (path : String) (size : Int)
  /-- An instruction word is about to be executed. -/
  | instruction (pc word : Int)
  /-- Something failed. -/
  | failure (error : Error)
  /-- The session is over, at a reading of the clock. -/
  | sessionEnd (cycles ended : Int)
  deriving DecidableEq, Repr

/-- The text of an entry in a session that started at a reading of the clock. A failure of the
machine names its instruction word in assembly text. -/
def Entry.text (start : Int) : Entry → String
  | .message words => words
  | .romLoaded path size => "Loaded ROM " ++ path ++ " (" ++ toString size ++ " bytes)"
  | .instruction pc word =>
    "0x" ++ Hex.padded 3 pc ++ ": " ++ Hex.padded 4 word ++ " " ++ Mnemonic.text word
  | .failure (.fault report) =>
    report.message ++ " [" ++ Mnemonic.text report.opcode ++ "]"
  | .failure error => error.message
  | .sessionEnd cycles ended =>
    let elapsed := Clock.elapsed start ended
    "Session ended after " ++ Decimal.grouped cycles ++ " cycles in " ++
      Decimal.fixed 1 elapsed ++ "s (" ++ Decimal.fixed 0 (Clock.rate cycles elapsed) ++ " Hz)"

/-- An entry with the reading of the clock and the level name that it was told at. -/
structure Record where
  /-- The reading of the clock. -/
  time : Int
  /-- The name of the level, as it was given. -/
  level : String
  /-- What is told. -/
  entry : Entry
  deriving DecidableEq, Repr

end Chip8
