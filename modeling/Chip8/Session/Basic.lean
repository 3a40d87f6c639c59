import Chip8.Execution
import Chip8.Log.Journal
import Chip8.Picture.Image
import Chip8.Session.Event
import Chip8.Session.Window

set_option autoImplicit false

/-!
# Interactive sessions

A session runs a machine frame by frame. A frame executes a number of instructions and then lets
the timers run for the time that has passed, sixty periods to the second; time that does not fill a
period is kept for later. A session stops executing where the machine waits for a key, and tells of
a fault without moving on.

## Main definitions

* `Chip8.Session.Options` — how a session is set up.
* `Chip8.Session` — a machine with the state of its surroundings.
* `Chip8.Session.start` — a session that begins.
* `Chip8.Session.handle` — what an event does.
* `Chip8.Session.advanceTimers` — the passing of time.
* `Chip8.Session.runFrame` — a frame.
-/

namespace Chip8

/-- How a session is set up. -/
structure Session.Options where
  /-- The program. -/
  rom : List UInt8 := []
  /-- The seed of the random generator. -/
  seed : Int := 0
  /-- How large a pixel is shown. -/
  scale : Int := 10
  /-- The name of the palette. -/
  palette : String := "classic"
  /-- The number of instructions in a frame. -/
  perFrame : Int := 10
  /-- The number of frames in a second. -/
  framesPerSecond : Int := 60

/-- A machine with the state of its surroundings. -/
structure Session where
  /-- The machine with the program loaded and nothing executed. -/
  fresh : Machine
  /-- The machine. -/
  machine : Machine
  /-- The colours of the window. -/
  palette : Palette
  /-- How large a pixel is shown. -/
  scale : Int
  /-- The number of instructions in a frame. -/
  perFrame : Int
  /-- The number of frames in a second. -/
  framesPerSecond : Int
  /-- The number of instructions executed so far. -/
  cycles : Nat
  /-- The time not yet spent on the timers, in sixtieths of a millisecond. -/
  clock : Int
  /-- The journal. -/
  journal : Journal
  /-- What kept a report from being told, if anything did so far. -/
  hindrance : Option Error

namespace Session

/-- A session that begins. The name of the palette is looked at before the program. -/
def start (options : Options) (journal : Journal) : Except Error Session := do
  let palette ← Palette.find options.palette
  let fresh ← Machine.boot options.seed options.rom
  return { fresh, machine := fresh, palette, scale := options.scale, perFrame := options.perFrame,
           framesPerSecond := options.framesPerSecond, cycles := 0, clock := 0, journal,
           hindrance := none }

/-- Reports to the journal. Only what hindered the first report of all is kept. -/
def report (s : Session) (call : Journal.Call) : Session :=
  { s with
    journal := s.journal.perform call
    hindrance := s.hindrance <|> s.journal.hindrance? call }

/-! ## Events -/

/-- What an event does, and whether the session goes on. Keys that stand for the keypad move its
keys, `F5` begins anew with a fresh machine, and `ESCAPE` ends the session. -/
def handle (s : Session) (event : Event) : Session × Bool :=
  match event with
  | .quit | .down "ESCAPE" => (s, false)
  | .down "F5" =>
    ({ s with machine := s.fresh }.report (.message Level.info.name "Reset"), true)
  | .down key =>
    match keyOfKeyboard? key with
    | some k => ({ s with machine := s.machine.press k }, true)
    | none => (s, true)
  | .up key =>
    match keyOfKeyboard? key with
    | some k => ({ s with machine := s.machine.release k }, true)
    | none => (s, true)
  | .other => (s, true)

/-- What events do one after the other, and whether none of them ends the session. -/
def handleAll (s : Session) (events : List Event) : Session × Bool :=
  events.foldl
    (fun state event =>
      let next := state.1.handle event
      (next.1, next.2 && state.2))
    (s, true)

/-! ## Time -/

/-- Counts the timers down by a number of periods. No timer takes more than 255 of them. -/
def countDown (s : Session) (ticks : Int) : Session :=
  { s with machine := (min ticks 255).toNat.repeat Machine.decrementTimers s.machine }

/-- Adds time to the clock, in sixtieths of a millisecond, and spends every whole period on the
timers. Yields the number of periods. -/
def spend (s : Session) (time : Int) : Session × Int :=
  let clock := s.clock + time
  ({ s with clock := clock % 1000 }.countDown (clock / 1000), clock / 1000)

/-- Lets a number of milliseconds pass, or the length of one frame when none is given. Yields the
number of periods of the timers. A rate of zero frames in a second has no length of a frame. -/
def advanceTimers (s : Session) (elapsed? : Option Int) : Session × Except Error Int :=
  match elapsed? with
  | some ms =>
    let spent := s.spend (60 * ms)
    (spent.1, .ok spent.2)
  | none =>
    if s.framesPerSecond = 0 then (s, .error .divisionByZero)
    else
      let spent := s.spend (Int.fdiv 60000 s.framesPerSecond)
      (spent.1, .ok spent.2)

/-! ## Frames -/

/-- Reports the instruction that the machine is about to execute. -/
def trace (s : Session) : Session :=
  s.report (.instruction s.machine.pc.toNat s.machine.nextWord.toNat)

/-- Executes up to `n` instructions, until the machine waits for a key or stops on a fault. An
instruction that faults is not counted and leaves the machine as it was. -/
def execute (s : Session) : Nat → Session × Option Fault
  | 0 => (s, none)
  | n + 1 =>
    if s.machine.isWaiting then (s, none)
    else
      let traced := s.trace
      match traced.machine.tick with
      | .error fault => (traced, some fault)
      | .ok machine => { traced with machine, cycles := traced.cycles + 1 }.execute n

/-- A frame: its instructions, then the passing of time. A fault keeps time from passing. -/
def runFrame (s : Session) (elapsed? : Option Int) : Session × Option Error :=
  match s.execute s.perFrame.toNat with
  | (executed, some fault) => (executed, some (.fault fault))
  | (executed, none) =>
    match executed.advanceTimers elapsed? with
    | (advanced, .ok _) => (advanced, none)
    | (advanced, .error error) => (advanced, some error)

/-- What a window shows of a session. -/
def picture (s : Session) (window : Window) : Image :=
  window.framing (.ofDisplay s.machine.display s.palette s.scale)

end Session

end Chip8
