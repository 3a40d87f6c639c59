import Chip8.Display
import Chip8.Host
import Chip8.Word

set_option autoImplicit false

/-!
# Pictures of the screen

A picture shows every pixel of the screen as a square of one colour. Pixels and colours may also
come from outside, as columns of any length and channels of any size; what does not fit is refused,
the pixels first.

## Main definitions

* `Chip8.Image` — a picture as rows of colours.
* `Chip8.Image.ofDisplay` — the picture of a screen.
* `Chip8.Image.hindrance?` — what keeps a picture from being drawn.
* `Chip8.PixelGrid` — pixels in columns of one length.
* `Chip8.ColourRequest` — colours as they are asked for.
* `Chip8.Image.ofGrid` — the picture of a screen given by its pixels.

## Main results

* `Chip8.Image.getElem?_repeatEach` — what a list of repeated members holds at a position.
-/

namespace Chip8

/-- A picture as rows of colours, from top to bottom and from left to right. -/
structure Image where
  /-- The rows. -/
  rows : List (List Colour)
  deriving DecidableEq, Repr

/-- The colour of a pixel. -/
def Palette.colour (p : Palette) (isLit : Bool) : Colour :=
  if isLit then p.lit else p.dark

namespace Image

/-- Every member of a list `n` times in a row. -/
def repeatEach {α : Type} (n : Nat) (l : List α) : List α :=
  l.flatMap (List.replicate n)

/-- In a list whose members are repeated, position `i` holds the member at `i / n`. -/
theorem getElem?_repeatEach {α : Type} {n : Nat} (hn : 0 < n) (l : List α) (i : Nat) :
    (repeatEach n l)[i]? = l[i / n]? := by
  induction l generalizing i with
  | nil => simp [repeatEach]
  | cons a l ih =>
    have hcons : repeatEach n (a :: l) = List.replicate n a ++ repeatEach n l := by
      simp [repeatEach]
    rw [hcons]
    by_cases h : i < n
    · rw [List.getElem?_append_left (by simpa using h)]
      simp [h, Nat.div_eq_of_lt h]
    · rw [List.getElem?_append_right (by simpa using Nat.le_of_not_lt h), List.length_replicate,
        ih, Nat.div_eq_sub_div hn (Nat.le_of_not_lt h), List.getElem?_cons_succ]

/-- The number of rows. -/
def height (image : Image) : Nat :=
  image.rows.length

/-- The number of colours in a row. -/
def width (image : Image) : Nat :=
  (image.rows.headD []).length

/-- The side of the square that shows a pixel: the scale, and at least one. -/
def side (scale : Int) : Nat :=
  max 1 scale.toNat

/-- The picture of a screen in which every pixel is a square of side `side scale`. -/
def ofDisplay (d : Display) (palette : Palette) (scale : Int) : Image :=
  let n := side scale
  { rows := repeatEach n ((List.range 32).map fun y =>
      repeatEach n ((List.range 64).map fun x => palette.colour (d.lit x y))) }

/-- What keeps a picture from being drawn at a scale, if anything does. A pixel cannot be repeated
more often than a word of sixty-four bits can tell. The pixels are repeated downwards first, and
then along the rows; each time there has to be an array for them. -/
def hindrance? (host : Host) (scale : Int) : Option Error :=
  let n := scale.toNat
  if scale ≤ 1 then none
  else if !Word.fits64 scale then some (.overflow .word)
  else host.arrayHindrance? [32 * n, 64, 3] <|> host.arrayHindrance? [32 * n, 64 * n, 3]

/-- The picture of a screen at a scale that is asked for, if it can be drawn. -/
def draw (host : Host) (d : Display) (palette : Palette) (scale : Int) : Except Error Image :=
  match hindrance? host scale with
  | some error => .error error
  | none => .ok (ofDisplay d palette scale)

end Image

/-! ## Pixels and colours from outside -/

/-- Pixels in columns of one length, each from top to bottom. -/
structure PixelGrid where
  /-- The columns from left to right. -/
  columns : List (List Bool)
  /-- All columns are as long as the first one. -/
  length_eq : ∀ column ∈ columns, column.length = (columns.headD []).length

namespace PixelGrid

/-- The grid of the given columns, which have to be of one length. -/
def ofColumns (columns : List (List Bool)) : Except Error PixelGrid :=
  if h : ∀ column ∈ columns, column.length = (columns.headD []).length then .ok ⟨columns, h⟩
  else .error (.misfit (.ragged [columns.length]))

/-- The number of columns and their length; without any column the length is left out. -/
def extents (grid : PixelGrid) : List Nat :=
  match grid.columns with
  | [] => [0]
  | column :: columns => [columns.length + 1, column.length]

/-- The screen that shows the given pixels, if they are as many as the screen has. -/
def display (grid : PixelGrid) : Except Error Display :=
  if grid.extents = [64, 32] then
    let cells := (grid.columns.map List.toArray).toArray
    .ok (.ofFn fun x y => (cells.getD x #[]).getD y false)
  else .error (.displayShape grid.extents)

end PixelGrid

/-- A colour as it is asked for, with channels of any size. -/
structure Channels where
  /-- The red channel. -/
  red : Int
  /-- The green channel. -/
  green : Int
  /-- The blue channel. -/
  blue : Int
  deriving DecidableEq, Repr

/-- The channels of a colour. -/
def Colour.channels (c : Colour) : Channels :=
  ⟨c.red.toNat, c.green.toNat, c.blue.toNat⟩

/-- The byte of a channel. A channel that is not even a word of sixty-four bits is told as such. -/
def Channels.byte (value : Int) : Except Error UInt8 :=
  if 0 ≤ value ∧ value < 256 then .ok (UInt8.ofNat value.toNat)
  else if Word.fits64 value then .error (.overflow (.channel value))
  else .error (.overflow .word)

/-- The colour with the given channels; the first channel that is not a byte is the one told. -/
def Channels.colour (c : Channels) : Except Error Colour := do
  let red ← byte c.red
  let green ← byte c.green
  let blue ← byte c.blue
  return ⟨red, green, blue⟩

/-- The palette of a name, or an error. -/
def Palette.find (name : String) : Except Error Palette :=
  match named? name with
  | some palette => .ok palette
  | none => .error (.unknownPalette name)

/-- Colours as they are asked for. -/
structure ColourRequest where
  /-- The colour of lit pixels. -/
  lit : Channels
  /-- The colour of dark pixels. -/
  dark : Channels
  deriving DecidableEq, Repr

namespace ColourRequest

/-- The colours of a named palette, with one or both replaced. -/
def choose (name : String) (lit? dark? : Option Channels) : Except Error ColourRequest := do
  let palette ← Palette.find name
  return ⟨lit?.getD palette.lit.channels, dark?.getD palette.dark.channels⟩

/-- The palette of the colours asked for; the colour of lit pixels is looked at first. -/
def palette (request : ColourRequest) : Except Error Palette := do
  let lit ← request.lit.colour
  let dark ← request.dark.colour
  return ⟨lit, dark⟩

end ColourRequest

/-- The picture of a screen in the colours asked for. -/
def Image.render (host : Host) (d : Display) (request : ColourRequest) (scale : Int) :
    Except Error Image := do
  draw host d (← request.palette) scale

/-- The picture of a screen given by its pixels, in the colours asked for. -/
def Image.ofGrid (host : Host) (grid : PixelGrid) (request : ColourRequest) (scale : Int) :
    Except Error Image := do
  render host (← grid.display) request scale

end Chip8
