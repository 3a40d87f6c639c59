import Chip8.Directory
import Chip8.Headless
import Chip8.Operand
import Chip8.Picture.Screenshot
import Chip8.Session.Playback

set_option autoImplicit false

/-!
# The command line

The program as a function of its arguments, its working directory and the turns of an interactive
session. Arguments assign values to settings. The program tells its settings, reads the program
image, and runs the machine with a window or without one; a screenshot is taken at the end of a run
without a window.

## Main definitions

* `Chip8.CommandLine.defaults` — the settings without any argument.
* `Chip8.CommandLine.settings` — the settings after all arguments.
* `Chip8.CommandLine.Outcome` — what a run leaves behind.
* `Chip8.CommandLine.runHeadless`, `Chip8.CommandLine.runWindow` — the two ways to run.
* `Chip8.CommandLine.play` — an interactive session as the settings describe it.
* `Chip8.CommandLine.run` — the program.
-/

namespace Chip8.CommandLine

/-! ## Settings -/

/-- The settings without any argument. -/
def defaults : Settings :=
  [ ("rom", .nothing),
    ("seed", .integer 0),
    ("scale", .integer 10),
    ("color_scheme", .text "classic"),
    ("instructions_per_frame", .integer 10),
    ("fps", .integer 60),
    ("headless", .truth false),
    ("frames", .integer 600),
    ("screenshot", .nothing),
    ("log_level", .text "INFO") ]

/-- The name and the written value that an argument assigns. Blanks between the name and the sign
of equality belong to neither. -/
def splitArgument (argument : String) : String × String :=
  let chars := argument.toList
  let before := chars.takeWhile (· != '=')
  let name := (before.reverse.dropWhile Value.isBlank).reverse
  (String.ofList name, String.ofList (chars.drop (before.length + 1)))

/-- An argument: the name of a setting, the value that is assigned to it, and how this was given. -/
structure Assignment where
  /-- The name of the setting. -/
  name : String
  /-- The value. -/
  value : Value
  /-- The argument as it was given. -/
  argument : String
  deriving DecidableEq, Repr

/-- The assignment that an argument describes. -/
def Assignment.ofArgument (argument : String) : Except Error Assignment := do
  let (name, written) := splitArgument argument
  return { name, value := ← Value.read written, argument }

/-- Whether an assignment is about a part of a setting that must still be given. -/
def Assignment.isBeyondMissing (settings : Settings) (a : Assignment) : Bool :=
  match Listing.parts '.' a.name with
  | owner :: _ :: _ => decide (settings.value owner = .missing)
  | _ => false

/-- The settings after an assignment. Only settings that exist can be assigned to, and references
must be well written. -/
def assign (settings : Settings) (a : Assignment) : Except Error Settings :=
  match settings.assign? a.name (a.value.linked?.getD .nothing) with
  | some settings =>
    if a.value.linked?.isSome then .ok settings else .error (.badAssignment a.argument)
  | none =>
    if a.isBeyondMissing settings then .error (.badAssignment a.argument)
    else .error (.unknownSetting a.name a.argument)

/-- The settings after all arguments. All of them are read before the first one takes effect. -/
def settings (arguments : List String) : Except Error Settings := do
  (← arguments.mapM Assignment.ofArgument).foldlM assign defaults

/-! ## Runs -/

/-- What a run leaves behind. -/
structure Outcome where
  /-- The exit status, or the error that broke the run off. -/
  status : Except Error Nat
  /-- The journal, if the run came as far as to begin one. -/
  journal : Option Journal
  /-- The screenshots by the names of their files. -/
  pictures : List (String × Image)
  /-- The interactive session, if there was one. -/
  playback : Option Playback

/-- A run broken off by an error. -/
def Outcome.broken (journal : Journal) (error : Error) : Outcome :=
  { status := .error error, journal, pictures := [], playback := none }

/-- Goes on after a report. A report that cannot be told breaks the run off. -/
def telling (pictures : List (String × Image)) (call : Journal.Call) (next : Journal → Outcome)
    (journal : Journal) : Outcome :=
  match journal.hindrance? call with
  | some error =>
    { status := .error error, journal := journal.perform call, pictures, playback := none }
  | none => next (journal.perform call)

/-- The screenshot at the end of a run without a window: its file name and the picture, if one is
asked for. A picture that cannot be written is an error. -/
def screenshot (host : Host) (d : Directory) (settings : Settings) (display : Display) :
    Except Error (List (String × Image)) := do
  let value ← settings.get "screenshot"
  if !value.isYes then return []
  let path := Directory.normalize (← value.fileName)
  let shown := d.resolve path
  let scale ← settings.get "scale"
  let palette ← settings.get "color_scheme"
  let image ← Screenshot.take host display shown scale.sideOfPixel palette.written
    (d.create (d.fromRoot path) shown)
  return [(path, image)]

/-- The machine at the end of a run without a window, and the number of cycles asked for. -/
def headlessEnd (host : Host) (showsProgress : Bool) (settings : Settings) (rom : List UInt8) :
    Except Error (Machine × Int) := do
  let machine ← Machine.boot (← (← settings.get "seed").seed host) rom
  let frames ← settings.get "frames"
  let perFrame ← settings.get "instructions_per_frame"
  let cycles ← frames.cycles host perFrame
  return (← machine.ranHeadless host showsProgress (← frames.count) (← perFrame.count), cycles)

/-- The verdict on a machine at the end of a run without a window: the fault or the end is told, and
the exit status depends on it. -/
def verdict (machine : Machine) (cycles : Int) (pictures : List (String × Image))
    (journal : Journal) : Outcome :=
  match machine.checked with
  | .error fault =>
    telling pictures (.failure (.fault fault))
      (fun journal => { status := .ok 1, journal, pictures, playback := none }) journal
  | .ok _ =>
    telling pictures (.sessionEnd cycles)
      (fun journal => { status := .ok 0, journal, pictures, playback := none }) journal

/-- Runs without a window: the machine, then the screenshot, then the verdict. -/
def runHeadless (host : Host) (showsProgress : Bool) (d : Directory) (settings : Settings)
    (rom : List UInt8) (journal : Journal) : Outcome :=
  match headlessEnd host showsProgress settings rom with
  | .error error => .broken journal error
  | .ok (machine, cycles) =>
    match screenshot host d settings machine.display with
    | .error error => .broken journal error
    | .ok [] => verdict machine cycles [] journal
    | .ok pictures =>
      let words := "Saved screenshot to " ++ (settings.target "screenshot").written
      telling pictures (.message Level.info.name words) (verdict machine cycles pictures) journal

/-- The session that the settings describe, all of which must have been given. What is not asked for
by a number is looked at later. The palette comes before the seed, and the seed before the
program. -/
def session (host : Host) (settings : Settings) (rom : List UInt8) (journal : Journal) :
    Except Error Session := do
  let seed ← settings.get "seed"
  let scale ← settings.get "scale"
  let palette ← settings.get "color_scheme"
  let perFrame ← settings.get "instructions_per_frame"
  let framesPerSecond ← settings.get "fps"
  let _ ← Palette.find palette.written
  Session.start
    { rom, seed := ← seed.seed host, palette := palette.written, scale := scale.number?.getD 0
      perFrame := perFrame.number?.getD 0, framesPerSecond := framesPerSecond.number?.getD 0 }
    journal

/-- What a session leaves behind whose frames have no number of instructions: in its first turn the
events are handled, and then no frame can be executed. -/
def playWithoutFrames (session : Session) (turns : List Turn) (error : Error) : Playback :=
  let begun := (session.beginTurn (turns.headD .closing)).1
  begun.unplayed (begun.hindrance.getD error)

/-- A session played as the settings describe: it needs a size of a pixel for its window, and then a
number of instructions for its frames. -/
def play (host : Host) (settings : Settings) (session : Session) (turns : List Turn) : Playback :=
  match (settings.target "scale").sideInWindow >>= Window.ofScale host with
  | .error error => session.unplayed error
  | .ok _ =>
    match (settings.target "instructions_per_frame").count with
    | .error error => playWithoutFrames session turns error
    | .ok _ => session.play host turns

/-- Runs with a window: an interactive session of the given turns. -/
def runWindow (host : Host) (settings : Settings) (rom : List UInt8) (journal : Journal)
    (turns : List Turn) : Outcome :=
  match session host settings rom journal with
  | .error error => .broken journal error
  | .ok session =>
    let playback := play host settings session turns
    { status :=
        match playback.broken with
        | some error => .error error
        | none => .ok (if playback.fault.isSome then 1 else 0)
      journal := playback.session.journal, pictures := [], playback }

/-- The path of the program image. -/
def romPath (value : Value) : Except Error String := do
  return Directory.normalize (← value.fileName)

/-- Runs with the bytes of a program image: without a window or with one. -/
def runRom (host : Host) (showsProgress : Bool) (d : Directory) (settings : Settings)
    (rom : List UInt8) (journal : Journal) (turns : List Turn) : Outcome :=
  match settings.get "headless" with
  | .error error => .broken journal error
  | .ok headless =>
    if headless.isYes then runHeadless host showsProgress d settings rom journal
    else runWindow host settings rom journal turns

/-- The program image at a path, and how its path is shown. -/
def readRom (d : Directory) (value : Value) : Except Error (List UInt8 × String) := do
  let path ← romPath value
  return (← d.read (d.fromRoot path) (d.resolve path), d.resolve path)

/-- Runs with settings that are known, in a journal that has begun. -/
def runWith (host : Host) (showsProgress : Bool) (d : Directory) (settings : Settings)
    (turns : List Turn) (journal : Journal) : Outcome :=
  match settings.get "rom" with
  | .error error => .broken journal error
  | .ok .nothing =>
    telling [] (.message Level.critical.name "No ROM given, run with rom=path/to/program.ch8")
      (fun journal => { status := .ok 2, journal, pictures := [], playback := none }) journal
  | .ok value =>
    match readRom d value with
    | .error error => .broken journal error
    | .ok (rom, shown) =>
      telling [] (.romLoaded shown rom.length)
        (fun journal => runRom host showsProgress d settings rom journal turns) journal

/-- The threshold that the settings name. -/
def threshold (settings : Settings) : Except Error Level := do
  Level.find (← (← settings.get "log_level").levelName)

/-- The empty journal of a run, at the threshold that the settings name. -/
def journal (settings : Settings) (clock : Nat → Int) : Except Error Journal := do
  Journal.begin { threshold := ← threshold settings } clock

/-- The program on a host, with a directory, arguments, the readings of the clock of its journal and
the turns of an interactive session. The progress of a run without a window may be shown or not. -/
def run (host : Host) (showsProgress : Bool) (d : Directory) (arguments : List String)
    (clock : Nat → Int) (turns : List Turn) : Outcome :=
  let unbegun (error : Error) : Outcome :=
    { status := .error error, journal := none, pictures := [], playback := none }
  match settings arguments with
  | .error error => unbegun error
  | .ok settings =>
    match journal settings clock with
    | .error error => unbegun error
    | .ok journal =>
      telling [] (.sessionStart settings) (runWith host showsProgress d settings turns) journal

end Chip8.CommandLine
