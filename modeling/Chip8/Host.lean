import Chip8.Error

set_option autoImplicit false

/-!
# The host

What a program needs and does not have of its own: room for what it makes, loops that are run for
it, a screen with windows, and files that pictures are written to. All this is given from outside as
functions. What is assumed of a host is said where it is needed, by properties with a name.

## Main definitions

* `Chip8.Window` — a window by its extents.
* `Chip8.Host` — what is given from outside.
* `Chip8.Host.CountsWords`, `Chip8.Host.OpensForPictures` — what may be assumed of a host.
-/

namespace Chip8

/-- A window by its extents. -/
structure Window where
  /-- The number of columns. -/
  width : Nat
  /-- The number of rows. -/
  height : Nat
  deriving DecidableEq, Repr

/-- What is given to a program from outside. -/
structure Host where
  /-- What keeps a loop over the numbers below a total from being laid out, if anything does. -/
  loopHindrance? : Int → Option Error
  /-- What keeps an array of bytes with some extents from being made, if anything does. -/
  arrayHindrance? : List Nat → Option Error
  /-- What keeps a text of a number of characters from being made, if anything does. -/
  textHindrance? : Nat → Option Error
  /-- The window that is opened where a number of columns and a number of rows are asked for. -/
  openWindow : Int → Int → Except Error Window
  /-- What keeps a picture from being written to a file of some name before that file is created, if
  anything does. -/
  formatHindrance? : String → Option Error
  /-- What keeps a picture with a number of columns and a number of rows from being written to a file
  of some name that has been created, if anything does. -/
  writeHindrance? : String → Nat → Nat → Option Error
  /-- How a text is refused that stands for a seed. -/
  refuseSeed : String → Error
  /-- How a text is refused that stands for a number of cycles. -/
  refuseCycles : String → Error

namespace Host

/-- Loops are laid out whose totals do not exceed the words of thirty-two bits. -/
def CountsWords (host : Host) : Prop :=
  ∀ total, total < 0x80000000 → host.loopHindrance? total = none

/-- A window that is opened for pictures of the screen has their extents, if there is room for such
pictures at all. Pictures of single places need no room. -/
def OpensForPictures (host : Host) : Prop :=
  ∀ side : Nat, 0 < side →
    (1 < side → host.arrayHindrance? [32 * side, 64 * side, 3] = none) →
      ∀ window, host.openWindow (64 * side) (32 * side) = .ok window →
        window = ⟨64 * side, 32 * side⟩

end Host

end Chip8
