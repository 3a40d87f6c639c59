set_option autoImplicit false

/-!
# Log levels

Five levels of increasing weight. Levels are named by text whose case does not matter; a record
may carry any name, and one that is not a level weighs as much as `INFO`.

## Main definitions

* `Chip8.Level` — the five levels.
* `Chip8.Level.ofName?` — the level that a text names.
* `Chip8.Level.weight` — the weight of a record with a given level name.
* `Chip8.Level.admits` — whether a threshold lets a record through.
-/

namespace Chip8

/-- The levels of a log, from the lightest to the heaviest. -/
inductive Level where
  /-- Details for tracing. -/
  | debug
  /-- What is going on. -/
  | info
  /-- Something unexpected. -/
  | warning
  /-- Something failed. -/
  | error
  /-- Nothing can go on. -/
  | critical
  deriving DecidableEq, Repr

namespace Level

/-- The levels from the lightest to the heaviest. -/
def all : List Level :=
  [.debug, .info, .warning, .error, .critical]

/-- The name of a level. -/
def name : Level → String
  | .debug => "DEBUG"
  | .info => "INFO"
  | .warning => "WARNING"
  | .error => "ERROR"
  | .critical => "CRITICAL"

/-- The place of a level among the levels. -/
def rank : Level → Nat
  | .debug => 0
  | .info => 1
  | .warning => 2
  | .error => 3
  | .critical => 4

/-- The capital form of a character as far as the letters from `A` to `Z` go: the capital of an
ASCII letter, `I` for the dotless `ı`, and `S` for the long `ſ`. -/
def capital (c : Char) : Char :=
  if c = 'ı' then 'I' else if c = 'ſ' then 'S' else c.toUpper

/-- A name in capitals. -/
def capitals (text : String) : String :=
  String.ofList (text.toList.map capital)

/-- The level that a text names in any case. -/
def ofName? (text : String) : Option Level :=
  all.find? fun level => level.name == capitals text

/-- The weight of a record with the given level name. -/
def weight (text : String) : Nat :=
  match ofName? text with
  | some level => level.rank
  | none => info.rank

/-- Whether a threshold lets a record with the given level name through. -/
def admits (threshold : Level) (text : String) : Bool :=
  decide (threshold.rank ≤ weight text)

end Level

end Chip8
