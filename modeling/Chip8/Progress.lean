import Chip8.Host
import Chip8.Text.Decimal
import Chip8.Word

set_option autoImplicit false

/-!
# Progress of a loop

A loop over the numbers below a total that reports to a progress bar. The bar is opened by the
first iteration, moves on in chunks of equal size, receives what is left of the total with the last
iteration, and is closed after it. The iterations are counted in words of thirty-two bits.

## Main definitions

* `Chip8.Bar` — what a progress bar has been told.
* `Chip8.Progress` — the plan of a report: the total, the size of a chunk, and the looks of the bar.
* `Chip8.Progress.request` — a plan, unless it cannot be made.
* `Chip8.Progress.hindrance?` — what keeps a loop from being gone through with its report.
* `Chip8.Progress.before`, `Chip8.Progress.after` — what an iteration reports before and after its
  work.
* `Chip8.Progress.scan` — the loop.
* `Chip8.Progress.perform` — the loop, unless something keeps it from being gone through.
-/

namespace Chip8

/-- What a progress bar has been told. Its options are settings that it was given beyond those
that have a field of their own. -/
structure Bar (α : Type) where
  /-- The number of steps to do. -/
  total : Int
  /-- The text beside the bar. -/
  description : String
  /-- What one step is called. -/
  unit : String
  /-- Further settings by name. -/
  options : List (String × α)
  /-- The numbers of steps by which it was moved on. -/
  updates : Array Int
  /-- Whether it was closed. -/
  closed : Bool
  deriving DecidableEq, Repr

namespace Bar

variable {α : Type}

/-- Moves a bar on. -/
def update (bar : Bar α) (steps : Int) : Bar α :=
  { bar with updates := bar.updates.push steps }

/-- Closes a bar. -/
def close (bar : Bar α) : Bar α :=
  { bar with closed := true }

end Bar

/-- The plan of a report on a loop. -/
structure Progress (α : Type) where
  /-- The number of iterations. -/
  total : Int
  /-- The number of iterations after which the bar moves on. -/
  chunk : Int
  /-- The text beside the bar. -/
  description : String
  /-- Further settings of the bar by name. -/
  options : List (String × α)

namespace Progress

variable {α : Type}

/-- The size of a chunk: the rate asked for, or a twentieth of the total and at most a thousand;
in any case at least one, and no more than the total. -/
def chunkSize (total : Int) (rate? : Option Int) : Int :=
  match rate? with
  | some rate => max 1 (min rate total)
  | none => max 1 (min (total / 20) 1000)

/-- Settings that a report decides for itself, whatever is asked for. -/
def reserved : List String :=
  ["total", "mininterval", "maxinterval", "miniters"]

/-- The plan for a number of iterations. Without a description the bar tells their number. -/
def plan (total : Int) (rate? : Option Int) (description? : Option String)
    (options : List (String × α)) : Progress α :=
  { total
    chunk := chunkSize total rate?
    description := description?.getD ("Emulating (" ++ Decimal.grouped total ++ " cycles)")
    options := options.filter fun option => !reserved.contains option.1 }

/-- Settings that have a place of their own and cannot be given once more. -/
def placed : List String :=
  ["n", "print_rate", "desc"]

/-- The plan for a number of iterations, unless further settings give once more what has a place of
its own; the first of these is told. Without a description the number must be one that can be
written. -/
def request (total : Int) (rate? : Option Int) (description? : Option String)
    (options : List (String × α)) : Except Error (Progress α) :=
  match (options.map Prod.fst).find? placed.contains with
  | some name => .error (.misuse (.repeatedSetting name))
  | none =>
    if description?.isNone && !Decimal.isWritable total then .error (.tooManyDigits none)
    else .ok (plan total rate? description? options)

/-! ## Limits -/

/-- What keeps a report from being made before the work of an iteration: the number of those done is
divided by the size of a chunk, and compared with the total if that is no multiple of it. -/
def openingOverflow? (p : Progress α) : Option Overflow :=
  if !Word.fits32 p.chunk then some (.operand "x2" p.chunk)
  else if p.total % p.chunk ≠ 0 ∧ !Word.fits32 p.total then some (.operand "y" p.total)
  else none

/-- What keeps a report from being made after the work of an iteration: its number is compared with
that of the last one. -/
def closingOverflow? (p : Progress α) : Option Overflow :=
  if Word.fits32 (p.total - 1) then none else some (.operand "y" (p.total - 1))

/-- What keeps the bar from being opened by the first iteration: a setting that the report decides
for itself and still hands on. -/
def barHindrance? (p : Progress α) : Option Error :=
  if 0 < p.total ∧ p.options.any (·.1 == "unit") then
    some (.misuse (.repeatedBarSetting "unit"))
  else none

/-- What keeps a loop from being gone through, in the order in which it shows, when the work may be
kept from being done as well. The bar is opened last, when the loop has been laid out. -/
def hindrance? (host : Host) (p : Progress α) (work : Option Overflow) : Option Error :=
  (p.openingOverflow? <|> work <|> p.closingOverflow?).map Overflow.error <|>
    host.loopHindrance? p.total <|> p.barHindrance?

/-! ## The loop -/

/-- The bar as it is opened. -/
def opened (p : Progress α) : Bar α :=
  { total := p.total, description := p.description, unit := "cycle", options := p.options,
    updates := #[], closed := false }

/-- What iteration `i` reports before its work: the first one opens the bar, the last one of a
chunk moves it on by a chunk, and the last one of all by what is left. -/
def before (p : Progress α) (i : Nat) (bar? : Option (Bar α)) : Option (Bar α) :=
  let done : Int := i + 1
  let bar? := if i = 0 then some p.opened else bar?
  let bar? := if done % p.chunk = 0 then bar?.map fun bar => bar.update p.chunk else bar?
  if p.total % p.chunk ≠ 0 ∧ done = p.total then
    bar?.map fun bar => bar.update (p.total % p.chunk)
  else bar?

/-- What iteration `i` reports after its work: the last one closes the bar. -/
def after (p : Progress α) (i : Nat) (bar? : Option (Bar α)) : Option (Bar α) :=
  if (i : Int) = p.total - 1 then bar?.map Bar.close else bar?

/-- Iteration `i` of a loop, with its report. -/
def iterate {σ : Type} (p : Progress α) (work : Nat → σ → σ) (i : Nat)
    (state : σ × Option (Bar α)) : σ × Option (Bar α) :=
  (work i state.1, p.after i (p.before i state.2))

/-- The first `n` iterations of a loop, with their reports. -/
def scanFirst {σ : Type} (p : Progress α) (work : Nat → σ → σ) (start : σ) (n : Nat) :
    σ × Option (Bar α) :=
  n.fold (fun i _ state => p.iterate work i state) (start, none)

/-- The whole loop. A total that is not positive means no iteration and no bar. -/
def scan {σ : Type} (p : Progress α) (work : Nat → σ → σ) (start : σ) : σ × Option (Bar α) :=
  p.scanFirst work start p.total.toNat

/-- The whole loop, unless something keeps it from being gone through or its work from being done.
-/
def perform {σ : Type} (host : Host) (p : Progress α) (overflow : Option Overflow)
    (work : Nat → σ → σ) (start : σ) : Except Error (σ × Option (Bar α)) :=
  match p.hindrance? host overflow with
  | some error => .error error
  | none => .ok (p.scan work start)

end Progress

end Chip8
