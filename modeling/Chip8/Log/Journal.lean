import Chip8.Log.Record
import Chip8.Setting

set_option autoImplicit false

/-!
# Journals

A journal keeps the records of a session that its threshold lets through, and every failure that
was reported, whether or not its record was kept. A report is told in one or several lines, and the
clock is looked at for each of them.

## Main definitions

* `Chip8.Journal.Style` — what is kept and how lines look.
* `Chip8.Journal` — the records and failures.
* `Chip8.Journal.Call` — what can be reported to a journal.
* `Chip8.Journal.Call.records` — the records that a report asks for.
* `Chip8.Journal.hindrance?` — what keeps a report from being told.
* `Chip8.Journal.perform` — the journal after a report.
* `Chip8.Journal.line` — the line of a record.
-/

namespace Chip8

/-- The level of a name, or an error. -/
def Level.find (name : String) : Except Error Level :=
  match ofName? name with
  | some level => .ok level
  | none => .error (.unknownLevel name)

/-- What a journal keeps and how its lines look. -/
structure Journal.Style where
  /-- The name that lines carry; by default that of the program. -/
  name : String := "chipjax"
  /-- The lightest level that is kept. -/
  threshold : Level := .info
  /-- Whether lines show the level in colour. -/
  colours : Bool := false
  /-- Whether lines show the time since the start. -/
  timestamps : Bool := true
  deriving DecidableEq, Repr

/-- The records of a session with the style of their text. -/
structure Journal where
  /-- What is kept and how lines look. -/
  style : Journal.Style
  /-- The reading of the clock at the start. -/
  start : Int
  /-- The readings of the clock that are still to come, one for each look at it. -/
  clock : Nat → Int
  /-- The records kept so far. -/
  records : Array Record
  /-- The failures reported so far. -/
  failures : Array Error

namespace Journal

/-- The empty journal of a session that starts at the first reading of a clock. -/
def blank (style : Style) (clock : Nat → Int) : Journal :=
  { style, start := clock 0, clock := fun n => clock (n + 1), records := #[], failures := #[] }

/-- The empty journal of a session that starts at the first reading of a clock, if that can be read.
-/
def begin (style : Style) (clock : Nat → Int) : Except Error Journal :=
  if Clock.isReadable (clock 0) then .ok (blank style clock) else .error (.overflow .clock)

/-- The journal with other readings to come. -/
def setClock (j : Journal) (clock : Nat → Int) : Journal :=
  { j with clock }

/-! ## Reports -/

/-- What can be reported to a journal. -/
inductive Call where
  /-- A message at a level of any name. -/
  | message (level : String) (words : String)
  /-- A session begins with the given settings. -/
  | sessionStart (settings : Settings)
  /-- A program was read. -/
  | romLoaded (path : String) (size : Int)
  /-- An instruction word is about to be executed. -/
  | instruction (pc word : Int)
  /-- Something failed. -/
  | failure (error : Error)
  /-- The session is over. -/
  | sessionEnd (cycles : Int)
  deriving Repr

/-- A line of equals signs. -/
def rule : String :=
  String.ofList (List.replicate 60 '=')

/-- The name of the level at which a report is told. -/
def Call.level : Call → String
  | .message level _ => level
  | .sessionStart _ | .romLoaded .. | .sessionEnd _ => Level.info.name
  | .instruction .. => Level.debug.name
  | .failure _ => Level.error.name

/-- How often the clock is looked at before the first line of a report: the time of the end is taken
apart from the time of its line. -/
def Call.looksBefore : Call → Nat
  | .sessionEnd _ => 1
  | _ => 0

/-- What the lines of a report tell, with a clock to look at. -/
def Call.entries (clock : Nat → Int) : Call → List Entry
  | .message _ words => [.message words]
  | .sessionStart settings =>
    (rule :: "Starting emulation session with configuration:" ::
      settings.map (fun setting => "  " ++ setting.1 ++ ": " ++ setting.2.written) ++
        [rule]).map .message
  | .romLoaded path size => [.romLoaded path size]
  | .instruction pc word => [.instruction pc word]
  | .failure error => [.failure error]
  | .sessionEnd cycles => [.sessionEnd cycles (clock 0)]

/-- The records that a report asks for: one for each line, at a reading of its own. -/
def Call.records (clock : Nat → Int) (call : Call) : List Record :=
  (call.entries clock).mapIdx fun i entry =>
    { time := clock (call.looksBefore + i), level := call.level, entry }

/-- The failures that a report adds. -/
def Call.failures : Call → List Error
  | .failure error => [error]
  | _ => []

/-- What keeps a report from being told before its first line: for the end of a session, a clock
that cannot be read, cycles without a rate, or cycles that cannot be written. -/
def Call.hindrance? (start : Int) (clock : Nat → Int) (call : Call) : Option Error :=
  match call with
  | .sessionEnd cycles =>
    if !Clock.isReadable (clock 0) then some (.overflow .clock)
    else if !Clock.hasRate cycles (Clock.elapsed start (clock 0)) then some (.overflow .cycles)
    else if !Decimal.isWritable cycles then some (.tooManyDigits none)
    else none
  | _ => none

/-- Whether the line of a record can be made: a line with a time needs a reading of the clock. -/
def hasLine (j : Journal) (record : Record) : Bool :=
  !j.style.timestamps || Clock.isReadable record.time

/-- What keeps a report from being told, at its beginning or, if the threshold lets it through, at
one of its lines. -/
def hindrance? (j : Journal) (call : Call) : Option Error :=
  match call.hindrance? j.start j.clock with
  | some error => some error
  | none =>
    if j.style.threshold.admits call.level && !(call.records j.clock).all j.hasLine then
      some (.overflow .clock)
    else none

/-- The records that a report leaves at any threshold that lets it through: those of the lines that
come before the first one that cannot be made. -/
def told (j : Journal) (call : Call) : List Record :=
  match call.hindrance? j.start j.clock with
  | some _ => []
  | none => (call.records j.clock).takeWhile j.hasLine

/-- How often the clock is looked at for a report, if all of its lines are told with a time. -/
def Call.looks (call : Call) : Nat :=
  call.looksBefore + (call.entries fun _ => 0).length

/-- The journal after a report. A line that is not told leaves its look at the clock unused. -/
def perform (j : Journal) (call : Call) : Journal :=
  { j with
    clock := fun n => j.clock (n + call.looks)
    records :=
      if j.style.threshold.admits call.level then j.records ++ j.told call else j.records
    failures := j.failures ++ call.failures }

/-! ## Lines -/

/-- The code that switches a terminal back. -/
def resetCode : String := "\x1b[0m"

/-- The code that switches a terminal to the colour of a level. A name that is not a level has
none, but `RESET` switches the terminal back. -/
def colourCode (level : String) : String :=
  match Level.ofName? level with
  | some .debug => "\x1b[36m"
  | some .info => "\x1b[32m"
  | some .warning => "\x1b[33m"
  | some .error => "\x1b[31m"
  | some .critical => "\x1b[35m"
  | none => if Level.capitals level = "RESET" then resetCode else ""

/-- What stands in front of the text of a record: the time, the level, and the name. -/
def head (j : Journal) (r : Record) : String :=
  let elapsed := Clock.elapsed j.start r.time
  let stamp :=
    if j.style.timestamps then "[" ++ Decimal.alignRight 8 (Decimal.fixed 2 elapsed) ++ "s]" else ""
  let tag := "[" ++ Decimal.alignRight 8 r.level ++ "]"
  let tag := if j.style.colours then colourCode r.level ++ tag ++ resetCode else tag
  stamp ++ tag ++ "[" ++ j.style.name ++ "] "

/-- The line of a record. -/
def line (j : Journal) (r : Record) : String :=
  j.head r ++ r.entry.text j.start ++ "\n"

/-- The lines of the records from the `n`-th on. -/
def linesFrom (j : Journal) (n : Nat) : String :=
  String.join ((j.records.toList.drop n).map j.line)

/-- The lines of all records. -/
def lines (j : Journal) : String :=
  j.linesFrom 0

end Journal

end Chip8
