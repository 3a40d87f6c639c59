set_option autoImplicit false

/-!
# Colours and palettes

A picture of the screen has two colours, one for lit pixels and one for dark ones. A few pairs
have names.

## Main definitions

* `Chip8.Colour` — a colour of three channels.
* `Chip8.Palette` — the colours of lit and dark pixels.
* `Chip8.Palette.named?` — the palette of a name.
-/

namespace Chip8

/-- A colour given by the intensity of its channels. -/
structure Colour where
  /-- The red channel. -/
  red : UInt8
  /-- The green channel. -/
  green : UInt8
  /-- The blue channel. -/
  blue : UInt8
  deriving DecidableEq, Repr

/-- The colours of a picture of the screen. -/
structure Palette where
  /-- The colour of lit pixels. -/
  lit : Colour
  /-- The colour of dark pixels. -/
  dark : Colour
  deriving DecidableEq, Repr

namespace Palette

/-- Green on black. -/
def classic : Palette :=
  ⟨⟨0, 255, 0⟩, ⟨0, 0, 0⟩⟩

/-- The palettes with a name, in the order in which they are offered. -/
def all : List (String × Palette) :=
  [ ("classic", classic),
    ("amber", ⟨⟨255, 176, 0⟩, ⟨0, 0, 0⟩⟩),
    ("white", ⟨⟨255, 255, 255⟩, ⟨0, 0, 0⟩⟩),
    ("blue", ⟨⟨0, 255, 255⟩, ⟨0, 0, 64⟩⟩),
    ("retro", ⟨⟨255, 255, 0⟩, ⟨64, 0, 64⟩⟩) ]

/-- The palette of a name. -/
def named? (name : String) : Option Palette :=
  all.lookup name

end Palette

end Chip8
