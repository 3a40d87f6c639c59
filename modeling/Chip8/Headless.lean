import Chip8.Execution
import Chip8.Progress

set_option autoImplicit false

/-!
# Running without a screen

A run of a number of frames as one flat loop over its cycles. The last cycle of every frame is
followed by one period of the timers, also when the machine has stopped. The length of a frame is a
word of thirty-two bits, and the loop is laid out by the host.

## Main definitions

* `Chip8.Machine.headlessCycle` — one cycle of the loop.
* `Chip8.Machine.runHeadless` — the loop.
* `Chip8.Machine.headless`, `Chip8.Machine.headlessWithProgress` — the loop without a progress bar
  and with one, unless something keeps it from being gone through.
* `Chip8.Machine.ranHeadless` — the machine at its end.
-/

namespace Chip8.Machine

/-- Cycle `i` of a run with a number of instructions per frame. The remainder takes the sign of
the divisor, so that no cycle ends a frame of negative length. -/
def headlessCycle (perFrame : Int) (i : Nat) (s : Machine) : Machine :=
  if Int.fmod i perFrame = perFrame - 1 then s.step.decrementTimers else s.step

/-- Runs a number of frames. A number of cycles that is not positive does nothing. -/
def runHeadless (s : Machine) (frames perFrame : Int) : Machine :=
  (frames * perFrame).toNat.fold (fun i _ s => s.headlessCycle perFrame i) s

/-! ## Limits -/

/-- What keeps the cycles of a frame from being counted: each number is divided by the length of a
frame, and the remainder compared with the last number below it. -/
def frameOverflow? (perFrame : Int) : Option Overflow :=
  if !Word.fits32 perFrame then some (.operand "x2" perFrame)
  else if !Word.fits32 (perFrame - 1) then some (.operand "y" (perFrame - 1))
  else none

/-- Runs a number of frames, unless something keeps the loop from being gone through. -/
def headless (host : Host) (s : Machine) (frames perFrame : Int) : Except Error Machine :=
  match (frameOverflow? perFrame).map Overflow.error <|>
    host.loopHindrance? (frames * perFrame) with
  | some error => .error error
  | none => .ok (s.runHeadless frames perFrame)

/-- Runs a number of frames with a progress bar, unless something keeps the loop from being gone
through. -/
def headlessWithProgress {α : Type} (host : Host) (s : Machine) (frames perFrame : Int) :
    Except Error (Machine × Option (Bar α)) := do
  let plan : Progress α ← Progress.request (frames * perFrame) none none []
  plan.perform host (frameOverflow? perFrame) (headlessCycle perFrame) s

/-- The machine at the end of a number of frames, whose progress is shown or not. -/
def ranHeadless (host : Host) (showsProgress : Bool) (s : Machine) (frames perFrame : Int) :
    Except Error Machine :=
  if showsProgress then
    (s.headlessWithProgress host frames perFrame :
      Except Error (Machine × Option (Bar Empty))).map Prod.fst
  else s.headless host frames perFrame

end Chip8.Machine
