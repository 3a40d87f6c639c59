import Chip8.Memory

set_option autoImplicit false

/-!
# The display

A monochrome screen of 64 by 32 pixels whose edges are joined: coordinates count modulo the width
and the height. A sprite is drawn by toggling the pixels that it covers.

## Main definitions

* `Chip8.Display` — which pixels are lit.
* `Chip8.Display.lit`, `Chip8.Display.ofFn` — one pixel, and the screen of a function.
* `Chip8.Sprite` — a sprite in memory and its place on the screen.
* `Chip8.Sprite.covers` — whether a set bit of the sprite falls on a pixel.
* `Chip8.Display.draw`, `Chip8.Display.collides` — the screen after drawing, and whether a lit
  pixel was switched off.

## Main results

* `Chip8.Display.lit_ofFn` — the pixels of the screen of a function.
* `Chip8.Display.ext_lit` — screens with the same pixels are equal.
* `Chip8.Display.lit_draw` — drawing toggles the pixels that the sprite covers.
* `Chip8.Display.collides_iff` — when drawing switches a lit pixel off.
-/

namespace Chip8

/-- Which pixels of the screen are lit. -/
structure Display where
  /-- The rows from top to bottom, each from left to right. -/
  rows : Vector (Vector Bool 64) 32
  deriving DecidableEq

namespace Display

/-- Whether the pixel in column `x` and row `y` is lit. -/
def lit (d : Display) (x y : Nat) : Bool :=
  d.rows[y % 32][x % 64]

/-- The screen whose pixel in column `x` and row `y` is `f x y`. -/
def ofFn (f : Nat → Nat → Bool) : Display :=
  ⟨Vector.ofFn fun y => Vector.ofFn fun x => f x.val y.val⟩

/-- The dark screen. -/
def dark : Display :=
  ⟨Vector.replicate 32 (Vector.replicate 64 false)⟩

/-- A pixel is the same as one a whole screen away. -/
@[simp] theorem lit_mod (d : Display) (x y : Nat) : d.lit (x % 64) (y % 32) = d.lit x y := by
  simp [lit]

/-- The pixels of the screen of a function. -/
@[simp] theorem lit_ofFn (f : Nat → Nat → Bool) (x y : Nat) :
    (ofFn f).lit x y = f (x % 64) (y % 32) := by
  simp [lit, ofFn]

@[simp] theorem lit_dark (x y : Nat) : dark.lit x y = false := by
  simp [lit, dark]

/-- Screens with the same pixels are equal. -/
theorem ext_lit {d d' : Display} (h : ∀ x < 64, ∀ y < 32, d.lit x y = d'.lit x y) : d = d' := by
  obtain ⟨r⟩ := d
  obtain ⟨r'⟩ := d'
  congr 1
  ext y hy x hx
  have := h x hx y hy
  simp only [lit, Nat.mod_eq_of_lt hx, Nat.mod_eq_of_lt hy] at this
  rw [this]

end Display

/-! ## Sprites -/

/-- A sprite in memory, eight pixels wide, and where its top left corner lies on the screen. -/
structure Sprite where
  /-- The memory that holds the rows. -/
  memory : Memory
  /-- The address of the top row; the other rows follow. -/
  start : Nat
  /-- The number of rows. -/
  height : Nat
  /-- The column of the left edge. -/
  left : Nat
  /-- The row of the top edge. -/
  top : Nat

namespace Sprite

/-- The bit of a sprite in column `column` and row `row`; the highest bit of a row is on the
left. -/
def bit (s : Sprite) (column row : Nat) : Bool :=
  (s.memory.read (s.start + row)).toNat.testBit (7 - column)

/-- Whether a set bit of the sprite falls on the pixel in column `x` and row `y`. The distance of
the pixel from the corner of the sprite is measured around the edges of the screen. -/
def covers (s : Sprite) (x y : Nat) : Bool :=
  let column := (x + 64 - s.left % 64) % 64
  let row := (y + 32 - s.top % 32) % 32
  decide (column < 8) && decide (row < s.height) && s.bit column row

end Sprite

namespace Display

/-- The screen after the pixels that a sprite covers have been toggled. -/
def draw (d : Display) (s : Sprite) : Display :=
  ofFn fun x y => d.lit x y ^^ s.covers x y

/-- Whether the sprite covers a lit pixel, which drawing it switches off. -/
def collides (d : Display) (s : Sprite) : Bool :=
  (List.range 32).any fun y => (List.range 64).any fun x => d.lit x y && s.covers x y

/-- Drawing toggles the pixels that the sprite covers. -/
@[simp] theorem lit_draw (d : Display) (s : Sprite) (x y : Nat) :
    (d.draw s).lit x y = (d.lit x y ^^ s.covers (x % 64) (y % 32)) := by
  simp [draw]

/-- Drawing switches a lit pixel off exactly when the sprite covers one. -/
theorem collides_iff (d : Display) (s : Sprite) :
    d.collides s = true ↔
      ∃ x < 64, ∃ y < 32, d.lit x y = true ∧ s.covers x y = true := by
  simp only [collides, List.any_eq_true, List.mem_range, Bool.and_eq_true]
  constructor
  · rintro ⟨y, hy, x, hx, h⟩
    exact ⟨x, hx, y, hy, h⟩
  · rintro ⟨x, hx, y, hy, h⟩
    exact ⟨y, hy, x, hx, h⟩

end Display

end Chip8
