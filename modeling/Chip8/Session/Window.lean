import Chip8.Picture.Image

set_option autoImplicit false

/-!
# The window of a session

A window is opened by the host for the picture of the screen at the scale of the session, and shows
the picture at its top left.

## Main definitions

* `Chip8.Window.ofScale` — the window of a session.
* `Chip8.Window.framing` — what a window shows.
-/

namespace Chip8.Window

/-- The window for a picture of the screen at a scale. -/
def ofScale (host : Host) (scale : Int) : Except Error Window :=
  host.openWindow (64 * scale) (32 * scale)

/-- The colour of a window where nothing was drawn. -/
def background : Colour :=
  ⟨0, 0, 0⟩

/-- The first members of a list, filled up to a number of them. -/
def fit {α : Type} (n : Nat) (filling : α) (l : List α) : List α :=
  (l.take n).rightpad n filling

/-- What a window shows with a picture at its top left. A picture of the same extents fills it. -/
def framing (window : Window) (image : Image) : Image :=
  if image.width = window.width ∧ image.height = window.height then image
  else
    { rows := fit window.height (List.replicate window.width background)
        (image.rows.map (fit window.width background)) }

end Chip8.Window
