import Chip8.Picture.Image

set_option autoImplicit false

/-!
# Screenshots

A screenshot is a picture of the screen in a named palette, kept in a file whose name tells the
format it is written in. The palette is looked at first, then the size of the picture, then the name
of the file, then the place of the file, and what writes it last.

## Main definitions

* `Chip8.Screenshot.take` — the picture that a screenshot file shows.
-/

namespace Chip8.Screenshot

/-- A step that something keeps from being made, if anything does. -/
def unlessHindered (hindrance? : Option Error) : Except Error Unit :=
  match hindrance? with
  | some error => .error error
  | none => .ok ()

/-- The picture that a screenshot file of the given name shows, unless something keeps the file
from being created. -/
def take (host : Host) (d : Display) (fileName : String) (scale : Except Error Int)
    (paletteName : String) (created : Except Error Unit) : Except Error Image := do
  let palette ← Palette.find paletteName
  let image ← Image.draw host d palette (← scale)
  unlessHindered (host.formatHindrance? fileName)
  created
  unlessHindered (host.writeHindrance? fileName image.width image.height)
  return image

end Chip8.Screenshot
