import Chip8.CommandLine
import Chip8.Host.Standard
import Chip8.Picture.Portable

set_option autoImplicit false

/-!
# The program

The outer layer of the command line: reads the program image and, for an interactive session, the
turns from standard input, one line each; prints the journal, whose clock moves with the time of the
turns, and writes the screenshots, whatever the endings of their names, as portable pixmaps.

## Main definitions

* `main` — the program.
-/

namespace Chip8.Program

/-- What is at a place, if anything is. What cannot be read as a file counts as a folder. -/
def item? (place : List String) : IO (Option Directory.Item) := do
  try
    let bytes ← IO.FS.readBinFile ("/" ++ "/".intercalate place)
    return some (.file bytes.toList)
  catch
    | .noFileOrDirectory .. => return none
    | _ => return some .folder

/-- The working directory, as far as the given paths lead through it. -/
def directory (paths : List String) : IO Directory := do
  let path := (← IO.currentDir).toString
  let place := Directory.moves path
  let blank : Directory := { path, place, item? := fun _ => none }
  let places := paths.flatMap fun path =>
    Directory.places [] (Directory.names (blank.fromRoot path))
  let items ← places.mapM fun place => do return (place, ← item? place)
  return { blank with item? := fun place => (items.lookup place).join }

/-- The turns described by the lines that are left in a stream. Lines that describe no turn are
skipped. -/
partial def readTurns (input : IO.FS.Stream) (turns : Array Turn) : IO (List Turn) := do
  let line ← input.getLine
  if line.isEmpty then return turns.toList
  readTurns input (turns ++ (Turn.ofText? line.trimAscii.toString).toArray)

/-- Runs the program on its arguments and yields the exit status. -/
def run (arguments : List String) : IO UInt32 := do
  let settings := (CommandLine.settings arguments).toOption.getD CommandLine.defaults
  let directory ← directory
    [(settings.target "rom").written, (settings.target "screenshot").written]
  let rom := do directory.read (← CommandLine.romPath (settings.target "rom")) ""
  let turns ←
    if (settings.target "headless").isYes || !rom.isOk then pure []
    else readTurns (← IO.getStdin) #[]
  let outcome :=
    CommandLine.run .standard true directory arguments (fun _ => 0) (Turn.paced 0 turns)
  IO.print ((outcome.journal.map Journal.lines).getD "")
  for picture in outcome.pictures do
    IO.FS.writeBinFile picture.1 picture.2.portable
  match outcome.status with
  | .ok status => return UInt32.ofNat status
  | .error error =>
    IO.eprintln error.message
    return 1

end Chip8.Program

/-- The program. -/
def main (arguments : List String) : IO UInt32 :=
  Chip8.Program.run arguments
