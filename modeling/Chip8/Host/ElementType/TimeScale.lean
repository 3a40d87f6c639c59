import Chip8.Text.Numeral
import Chip8.Word

set_option autoImplicit false

/-!
# Scales of time

Points in time and lengths of time are counted in steps of some units each, as in `[25s]`. A step
may also be written as a part of a unit, as in `[D/2]`, if that is a number of finer units; the step
is then told in the coarsest of these.

## Main definitions

* `Chip8.TimeUnit` — a unit of time.
* `Chip8.TimeUnit.finer` — finer units, and how many of them make up a unit.
* `Chip8.TimeScale` — the step in which time is counted.
* `Chip8.TimeScale.text` — how a step is written.
* `Chip8.TimeScale.read` — the step that a text stands for.
-/

namespace Chip8

/-- A unit of time. -/
inductive TimeUnit where
  | year
  | month
  | week
  | day
  | hour
  | minute
  | second
  | millisecond
  | microsecond
  | nanosecond
  | picosecond
  | femtosecond
  | attosecond
  deriving DecidableEq, Repr

namespace TimeUnit

/-- The sign of a unit. -/
def symbol : TimeUnit → String
  | year => "Y"
  | month => "M"
  | week => "W"
  | day => "D"
  | hour => "h"
  | minute => "m"
  | second => "s"
  | millisecond => "ms"
  | microsecond => "us"
  | nanosecond => "ns"
  | picosecond => "ps"
  | femtosecond => "fs"
  | attosecond => "as"

/-- The units by their signs. A millionth of a second has two more signs. -/
def bySymbol : List (String × TimeUnit) :=
  [year, month, week, day, hour, minute, second, millisecond, microsecond, nanosecond, picosecond,
    femtosecond, attosecond].map (fun unit => (unit.symbol, unit)) ++
    [("μs", microsecond), ("µs", microsecond)]

/-- Finer units, the coarsest first, with the number of them that makes up a unit. Months and years
are taken to have a usual length. -/
def finer : TimeUnit → List (TimeUnit × Int)
  | year => [(month, 12), (week, 52), (day, 365)]
  | month => [(week, 4), (day, 30), (hour, 720)]
  | week => [(day, 7), (hour, 168), (minute, 10080), (second, 604800)]
  | day => [(hour, 24), (minute, 1440), (second, 86400)]
  | hour => [(minute, 60), (second, 3600)]
  | minute => [(second, 60), (millisecond, 60000)]
  | second => [(millisecond, 1000), (microsecond, 1000000)]
  | millisecond => [(microsecond, 1000), (nanosecond, 1000000)]
  | microsecond => [(nanosecond, 1000), (picosecond, 1000000)]
  | nanosecond => [(picosecond, 1000), (femtosecond, 1000000)]
  | picosecond => [(femtosecond, 1000), (attosecond, 1000000)]
  | femtosecond => [(attosecond, 1000)]
  | attosecond => []

end TimeUnit

/-- The step in which time is counted: a number of units. -/
structure TimeScale where
  /-- The number of units in a step. -/
  count : Int
  /-- The unit. -/
  unit : TimeUnit
  deriving DecidableEq, Repr

namespace TimeScale

/-- How a step is written; a single unit is not counted. -/
def text (scale : TimeScale) : String :=
  "[" ++ (if scale.count = 1 then "" else toString scale.count) ++ scale.unit.symbol ++ "]"

/-- Why a text stands for no step. -/
inductive Unreadable where
  /-- The text is not written as a step has to be, from a place in it on if one is told. -/
  | form (text : String) (place? : Option Nat)
  /-- The text names no unit of time. -/
  | unit (text : String)
  /-- The part of a unit that the text names is no number of finer units. -/
  | part (divisor : Int) (text : String)
  /-- The text names a part of no unit in particular. -/
  | partOfNone
  deriving DecidableEq, Repr

/-- How it is told why a text stands for no step. -/
def Unreadable.text : Unreadable → String
  | .form text place? =>
    "Invalid datetime metadata string \"" ++ text ++ "\"" ++
      ((place?.map fun place => " at position " ++ toString place).getD "")
  | .unit text => "Invalid datetime unit in metadata string \"" ++ text ++ "\""
  | .part divisor text =>
    "divisor (" ++ toString divisor ++
      ") is not a multiple of a lower-unit in datetime metadata \"" ++ text ++ "\""
  | .partOfNone => "Can't use 'den' divisor with generic units"

/-- The text is unfit from the place on where the given characters are left of it. -/
def Unreadable.unfit (text : String) (left : List Char) : Unreadable :=
  .form text (some (text.utf8ByteSize - (String.ofList left).utf8ByteSize))

/-- A step divided by a number, in the coarsest finer unit in which it is a whole number. -/
def divided? (scale : TimeScale) (divisor : Int) : Option TimeScale :=
  let fits (entry : TimeUnit × Int) : Bool := decide (divisor ≠ 0 ∧ Int.tmod entry.2 divisor = 0)
  (scale.unit.finer.find? fits).map fun entry =>
    { count := Word.low32 (scale.count * Int.tdiv entry.2 divisor), unit := entry.1 }

/-- The divisor at the start of characters, if a closing bracket follows. It passes through a word
of sixty-four bits, of which the low half is kept. -/
def divisor? (chars : List Char) : Option Int :=
  match Numeral.leading? chars with
  | some (n, ']' :: _) =>
    some (Word.low32 (max (-0x8000000000000000) (min n 0x7fffffffffffffff)))
  | _ => none

/-- The step inside brackets: a number, a unit and the divisor of the unit, where the number and the
divisor may be left out. The name of no unit in particular gives no step. The whole text is told in
errors. -/
def readInside (text : String) (inside : List Char) : Except Unreadable (Option TimeScale) := do
  let (count, rest) := (Numeral.leading? inside).getD (1, inside)
  if count < 0 || 0x7fffffff < count then throw (.unfit text inside)
  let symbol := rest.takeWhile fun c => c != '/' && c != ']'
  if symbol.isEmpty then throw (.unfit text rest)
  let unit? ←
    if String.ofList symbol = "generic" then pure none
    else
      match TimeUnit.bySymbol.lookup (String.ofList symbol) with
      | some unit => pure (some unit)
      | none => throw (.unit text)
  let divisor ←
    match rest.drop symbol.length with
    | '/' :: rest =>
      match divisor? rest with
      | some divisor => pure divisor
      | none => throw (.unfit text rest)
    | _ => pure 1
  match unit? with
  | none => if divisor = 1 then return none else throw .partOfNone
  | some unit =>
    let scale : TimeScale := { count, unit }
    if divisor = 1 then return some scale
    match scale.divided? divisor with
    | some scale => return some scale
    | none => throw (.part divisor text)

/-- The step that characters stand for. No characters at all stand for no step in particular; others
are a step between brackets. -/
def read (chars : List Char) : Except Unreadable (Option TimeScale) := do
  let text := String.ofList chars
  if chars.isEmpty then return none
  if text.utf8ByteSize < 3 then throw (.form text none)
  match chars with
  | '[' :: inside =>
    match inside.dropWhile (· != ']') with
    | [] => throw (.unfit text [])
    | close :: rest =>
      if inside.head? = some ']' then throw (.unfit text (close :: rest))
      let scale? ← readInside text inside
      if rest.isEmpty then return scale? else throw (.unfit text rest)
  | _ => throw (.form text (some 1))

end TimeScale

end Chip8
