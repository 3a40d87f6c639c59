import Chip8.Host
import Chip8.Host.Arrays
import Chip8.Host.Format
import Chip8.Host.NumberTexts

set_option autoImplicit false

/-!
# A host with a screen

A host as programs find it on a computer with a screen: words of sixty-four bits, a bounded memory,
windows up to a greatest extent, and a list of formats for pictures.

## Main definitions

* `Chip8.Host.Standard.openWindow` — its windows.
* `Chip8.Host.standard` — the host.
-/

namespace Chip8.Host

namespace Standard

/-- The whole screen. -/
def desktop : Window :=
  ⟨1024, 768⟩

/-- The greatest extent of a window. -/
def largest : Nat := 16384

/-- The window of some extents. Extents that are no words of sixty-four bits are refused, and of the
others the low thirty-two bits count, which must be neither negative nor too large. A window without
any extent takes the whole screen. -/
def openWindow (width height : Int) : Except Error Window :=
  if !(Word.fits64 width && Word.fits64 height) then .error (.misuse .windowSize)
  else if Word.low32 width < 0 ∨ Word.low32 height < 0 then
    .error (.host ⟨.screen, "Cannot set negative sized display mode"⟩)
  else if Word.low32 width = 0 ∧ Word.low32 height = 0 then .ok desktop
  else if largest < Word.low32 width ∨ largest < Word.low32 height then
    .error (.host ⟨.screen, "Window is too large."⟩)
  else .ok ⟨(Word.low32 width).toNat, (Word.low32 height).toNat⟩

/-- The format of a file, and whether it takes a picture of three channels. -/
def format (fileName : String) : Except HostFailure Format :=
  Format.find (Format.extension fileName)

/-- The cause of a step of the host that failed, if it did. -/
def cause? {α : Type} (step : Except HostFailure α) : Option Error :=
  match step with
  | .ok _ => none
  | .error failure => some (.host failure)

end Standard

/-- A host with a screen. -/
def standard : Host where
  loopHindrance? := Room.loopHindrance?
  arrayHindrance? := Room.arrayHindrance?
  textHindrance? := Room.textHindrance?
  openWindow := Standard.openWindow
  formatHindrance? fileName := Standard.cause? (Standard.format fileName)
  writeHindrance? fileName _ _ := Standard.cause? (Standard.format fileName >>= Format.check)
  refuseSeed := NumberTexts.refuseSeed
  refuseCycles := NumberTexts.refuseCycles

end Chip8.Host
