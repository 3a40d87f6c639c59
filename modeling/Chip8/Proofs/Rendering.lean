import Chip8.Host.Standard
import Chip8.Proofs.Windows

set_option autoImplicit false

/-!
# Pictures and their pixels

A picture shows the pixel in column `x` and row `y` of the screen as a square whose corner is at
column `x * n` and row `y * n`, where `n` is the side of the squares. So the colour at any place of
the picture tells of one pixel, and if the two colours differ, the corners of the squares tell of
all of them. Pixels come as an array; only one of sixty-four columns of thirty-two pixels is a
screen.

Pictures are drawn at the scales at which the host has room for them.

## Main definitions

* `Chip8.PixelArray` — pixels in an array of any extents.
* `Chip8.Image.ofArray` — the picture of a screen given as an array.
* `Chip8.Image.pixel?`, `Chip8.Image.sample` — the colour at a place of a picture, and the array of
  the pixels that the corners of its squares show as lit.
* `Chip8.Image.Shows`, `Chip8.ColourRequest.Faithful` — a picture shows an array of pixels, and what
  pictures in given colours guarantee.

## Main results

* `Chip8.Image.ofArray_array`, `Chip8.Image.ofArray_grid` — a screen and pixels given column by
  column are drawn as their arrays are.
* `Chip8.Image.pixel?_ofDisplay` — the colour at every place of a picture.
* `Chip8.Image.Shows.sample_eq` — the corners of the squares give the pixels back.
* `Chip8.ColourRequest.faithful` — the guarantees hold of all colours and scales.
-/

namespace Chip8

/-! ## Arrays of pixels -/

/-- Pixels in an array of any extents, in the order in which the last extent runs fastest. -/
@[ext] structure PixelArray where
  /-- The extents, outermost first. -/
  extents : List ℕ
  /-- The pixels. -/
  pixels : List Bool
  /-- There are as many pixels as the extents tell. -/
  length_eq : pixels.length = extents.prod

namespace PixelArray

/-- The pixel in row `y` of column `x`, if the columns are those of a screen. -/
def lit (a : PixelArray) (x y : ℕ) : Bool :=
  a.pixels.getD (32 * x + y) false

/-- The screen that shows the pixels of an array, if it has the extents of a screen. -/
def display (a : PixelArray) : Except Error Display :=
  if a.extents = [64, 32] then .ok (.ofFn a.lit) else .error (.displayShape a.extents)

/-- The array of a screen whose pixel in column `x` and row `y` is `f x y`. -/
def ofFn (f : ℕ → ℕ → Bool) : PixelArray where
  extents := [64, 32]
  pixels := (List.range 2048).map fun i => f (i / 32) (i % 32)
  length_eq := by
    rw [List.length_map, List.length_range]
    rfl

lemma lit_ofFn (f : ℕ → ℕ → Bool) {x y : ℕ} (hx : x < 64) (hy : y < 32) :
    (ofFn f).lit x y = f x y := by
  have hcolumn : (32 * x + y) / 32 = x := by omega
  have hrow : (32 * x + y) % 32 = y := by omega
  rw [lit, ofFn, List.getD_eq_getElem?_getD, List.getElem?_map,
    List.getElem?_range (by omega), Option.map_some, hcolumn, hrow, Option.getD_some]

/-- Arrays of a screen with the same pixels are equal. -/
lemma ext_lit {a b : PixelArray} (ha : a.extents = [64, 32]) (hb : b.extents = [64, 32])
    (h : ∀ x < 64, ∀ y < 32, a.lit x y = b.lit x y) : a = b := by
  have hlength : a.pixels.length = 2048 ∧ b.pixels.length = 2048 := by
    rw [a.length_eq, b.length_eq, ha, hb]
    exact ⟨rfl, rfl⟩
  refine PixelArray.ext (ha.trans hb.symm) (List.ext_getElem (hlength.1.trans hlength.2.symm) ?_)
  intro i hi hi'
  have hplace : 32 * (i / 32) + i % 32 = i := Nat.div_add_mod i 32
  have hpixel := h (i / 32) (by omega) (i % 32) (by omega)
  rwa [lit, lit, hplace, List.getD_eq_getElem?_getD, List.getD_eq_getElem?_getD,
    List.getElem?_eq_getElem hi, List.getElem?_eq_getElem hi', Option.getD_some,
    Option.getD_some] at hpixel

lemma display_of_extents {a : PixelArray} (h : a.extents = [64, 32]) :
    a.display = .ok (.ofFn a.lit) :=
  if_pos h

lemma display_of_extents_ne {a : PixelArray} (h : a.extents ≠ [64, 32]) :
    a.display = .error (.displayShape a.extents) :=
  if_neg h

end PixelArray

namespace Display

/-- The pixels of a screen as an array. -/
def array (d : Display) : PixelArray :=
  .ofFn d.lit

lemma extents_array (d : Display) : d.array.extents = [64, 32] :=
  rfl

/-- Screens that are filled in by functions that agree on the screen are equal. -/
lemma ofFn_congr {f g : ℕ → ℕ → Bool} (h : ∀ x < 64, ∀ y < 32, f x y = g x y) :
    ofFn f = ofFn g := by
  refine ext_lit fun x hx y hy => ?_
  rw [lit_ofFn, lit_ofFn, Nat.mod_eq_of_lt hx, Nat.mod_eq_of_lt hy]
  exact h x hx y hy

/-- The array of a screen is shown by the screen. -/
lemma display_array (d : Display) : d.array.display = .ok d := by
  have hscreen : ofFn d.array.lit = d := by
    refine ext_lit fun x hx y hy => ?_
    rw [lit_ofFn, Nat.mod_eq_of_lt hx, Nat.mod_eq_of_lt hy]
    exact PixelArray.lit_ofFn d.lit hx hy
  rw [PixelArray.display_of_extents d.extents_array, hscreen]

end Display

/-! ## Arrays given column by column -/

/-- In columns of one length, one behind the other, a pixel is found by its column and its row. -/
lemma getElem?_flatten_of_length {α : Type} {n : ℕ} {columns : List (List α)}
    (h : ∀ column ∈ columns, column.length = n) (x : ℕ) {y : ℕ} (hy : y < n) :
    columns.flatten[n * x + y]? = columns[x]?.bind (·[y]?) := by
  -- by induction on the columns: a pixel is in the first one, or one column nearer in the others
  induction columns generalizing x with
  | nil => rfl
  | cons column columns ih =>
    have hcolumn : column.length = n := h column List.mem_cons_self
    rw [List.flatten_cons]
    cases x with
    | zero => rw [Nat.mul_zero, Nat.zero_add, List.getElem?_append_left (by omega)]; rfl
    | succ x =>
      have hnext : n * (x + 1) + y - column.length = n * x + y := by
        rw [hcolumn, Nat.mul_succ]
        omega
      rw [List.getElem?_append_right (by rw [hcolumn, Nat.mul_succ]; omega), hnext,
        ih (fun c hc => h c (List.mem_cons_of_mem _ hc)), List.getElem?_cons_succ]

namespace PixelGrid

/-- The columns of a grid one behind the other. -/
def array (grid : PixelGrid) : PixelArray where
  extents := grid.extents
  pixels := grid.columns.flatten
  length_eq := by
    obtain ⟨columns, hlength⟩ := grid
    cases columns with
    | nil => rfl
    | cons column columns =>
      have hlengths : (column :: columns).map List.length =
          List.replicate (columns.length + 1) column.length :=
        List.eq_replicate_iff.mpr ⟨by simp, by simpa using hlength⟩
      rw [List.length_flatten, hlengths, List.sum_replicate, extents, List.prod_cons,
        List.prod_singleton, smul_eq_mul]

lemma length_of_extents {grid : PixelGrid} (h : grid.extents = [64, 32]) :
    grid.columns.length = 64 ∧ ∀ column ∈ grid.columns, column.length = 32 := by
  obtain ⟨columns, hlength⟩ := grid
  cases columns with
  | nil => exact absurd h (by simp [extents])
  | cons column columns =>
    obtain ⟨hcolumns, hrows⟩ : columns.length + 1 = 64 ∧ column.length = 32 := by
      simpa [extents] using h
    exact ⟨hcolumns, fun c hc => (hlength c hc).trans hrows⟩

/-- **A grid shows what its array shows.** -/
theorem display_array (grid : PixelGrid) : grid.array.display = grid.display := by
  by_cases h : grid.extents = [64, 32]
  case neg => rw [PixelArray.display_of_extents_ne h, PixelGrid.display, if_neg h]; rfl
  obtain ⟨hcolumns, hrows⟩ := length_of_extents h
  rw [PixelArray.display_of_extents h, PixelGrid.display, if_pos h]
  refine congrArg Except.ok (Display.ofFn_congr fun x hx y hy => ?_)
  have hx' : x < grid.columns.length := hcolumns.symm ▸ hx
  rw [PixelArray.lit, PixelGrid.array, List.getD_eq_getElem?_getD,
    getElem?_flatten_of_length hrows x hy, List.getElem?_eq_getElem hx', Option.bind_some]
  simp [hx']

end PixelGrid

/-! ## Colours at the places of a picture -/

namespace Image

/-- The picture of a screen given as an array, in the colours asked for. -/
def ofArray (host : Host) (a : PixelArray) (request : ColourRequest) (scale : ℤ) :
    Except Error Image := do
  render host (← a.display) request scale

/-- A screen is drawn as its array is. -/
lemma ofArray_array (host : Host) (d : Display) (request : ColourRequest) (scale : ℤ) :
    ofArray host d.array request scale = render host d request scale := by
  rw [ofArray, d.display_array, ok_bind]

/-- Pixels given column by column are drawn as their array is. -/
lemma ofArray_grid (host : Host) (grid : PixelGrid) (request : ColourRequest) (scale : ℤ) :
    ofArray host grid.array request scale = ofGrid host grid request scale := by
  rw [ofArray, grid.display_array, ofGrid]

/-- The colour in row `r` and column `c`, if a picture reaches so far. -/
def pixel? (image : Image) (r c : ℕ) : Option Colour :=
  image.rows[r]?.bind (·[c]?)

lemma side_pos (scale : ℤ) : 0 < side scale :=
  Nat.le_max_left 1 scale.toNat

/-- **The colour at every place of a picture** is that of the pixel whose square lies there. -/
theorem pixel?_ofDisplay (d : Display) (palette : Palette) {scale : ℤ} {r c : ℕ}
    (hr : r < 32 * side scale) (hc : c < 64 * side scale) :
    (ofDisplay d palette scale).pixel? r c =
      some (palette.colour (d.lit (c / side scale) (r / side scale))) := by
  have hn := side_pos scale
  have hx : c / side scale < 64 := (Nat.div_lt_iff_lt_mul hn).mpr hc
  have hy : r / side scale < 32 := (Nat.div_lt_iff_lt_mul hn).mpr hr
  rw [pixel?, ofDisplay, getElem?_repeatEach hn, List.getElem?_map, List.getElem?_range hy,
    Option.map_some, Option.bind_some, getElem?_repeatEach hn, List.getElem?_map,
    List.getElem?_range hx, Option.map_some]

/-- All rows of the picture of a screen are of one length. -/
lemma length_row_ofDisplay (d : Display) (palette : Palette) (scale : ℤ) {row : List Colour}
    (h : row ∈ (ofDisplay d palette scale).rows) : row.length = 64 * side scale := by
  obtain ⟨line, hline, hrow⟩ := List.mem_flatMap.mp h
  obtain ⟨y, -, rfl⟩ := List.mem_map.mp hline
  rw [List.eq_of_mem_replicate hrow, length_repeatEach, List.length_map, List.length_range,
    Nat.mul_comm]

end Image

/-! ## Colours as they are asked for -/

namespace Channels

/-- The channels of a colour are bytes. -/
structure InRange (c : Channels) : Prop where
  /-- The red channel is a byte. -/
  red : 0 ≤ c.red ∧ c.red < 256
  /-- The green channel is a byte. -/
  green : 0 ≤ c.green ∧ c.green < 256
  /-- The blue channel is a byte. -/
  blue : 0 ≤ c.blue ∧ c.blue < 256

/-- A channel has the byte of its value. -/
lemma byte_eq_ok_iff {value : ℤ} {b : UInt8} : byte value = .ok b ↔ value = b.toNat := by
  have hb := b.toNat_lt
  unfold byte
  split
  case isTrue h =>
    rw [Except.ok.injEq, ← UInt8.toNat_inj, UInt8.toNat_ofNat']
    omega
  case isFalse h =>
    have hvalue : value ≠ b.toNat := by omega
    split <;> simp [hvalue]

/-- Channels are those of the colour that they give. -/
lemma colour_eq_ok_iff {c : Channels} {colour : Colour} :
    c.colour = .ok colour ↔ c = colour.channels := by
  obtain ⟨red, green, blue⟩ := c
  obtain ⟨red', green', blue'⟩ := colour
  simp only [Channels.colour, bind_eq_ok_iff, byte_eq_ok_iff, Colour.channels, Channels.mk.injEq]
  constructor
  · rintro ⟨_, rfl, _, rfl, _, rfl, ⟨⟩⟩
    exact ⟨rfl, rfl, rfl⟩
  · rintro ⟨rfl, rfl, rfl⟩
    exact ⟨_, rfl, _, rfl, _, rfl, rfl⟩

/-- Channels that are bytes are those of a colour. -/
lemma InRange.exists_channels_eq {c : Channels} (h : c.InRange) :
    ∃ colour : Colour, colour.channels = c := by
  obtain ⟨red, green, blue⟩ := c
  obtain ⟨hred, hgreen, hblue⟩ := h
  refine ⟨⟨.ofNat red.toNat, .ofNat green.toNat, .ofNat blue.toNat⟩, ?_⟩
  dsimp only at hred hgreen hblue
  simp only [Colour.channels, Channels.mk.injEq]
  refine ⟨?_, ?_, ?_⟩ <;> rw [UInt8.toNat_ofNat'] <;> omega

end Channels

namespace ColourRequest

/-- Both colours asked for have channels that are bytes. -/
structure InRange (request : ColourRequest) : Prop where
  /-- The channels of the colour of lit pixels are bytes. -/
  lit : request.lit.InRange
  /-- The channels of the colour of dark pixels are bytes. -/
  dark : request.dark.InRange

/-- The colour that is asked for a pixel. -/
def colour (request : ColourRequest) (isLit : Bool) : Channels :=
  if isLit then request.lit else request.dark

/-- The palette of a request has the colours asked for. -/
lemma palette_eq_ok_iff {request : ColourRequest} {palette : Palette} :
    request.palette = .ok palette ↔
      request = ⟨palette.lit.channels, palette.dark.channels⟩ := by
  obtain ⟨lit, dark⟩ := request
  obtain ⟨lit', dark'⟩ := palette
  simp only [ColourRequest.palette, bind_eq_ok_iff, Channels.colour_eq_ok_iff,
    ColourRequest.mk.injEq]
  constructor
  · rintro ⟨_, rfl, _, rfl, ⟨⟩⟩
    exact ⟨rfl, rfl⟩
  · rintro ⟨rfl, rfl⟩
    exact ⟨_, rfl, _, rfl, rfl⟩

lemma InRange.exists_palette {request : ColourRequest} (h : request.InRange) :
    ∃ palette, request.palette = .ok palette := by
  obtain ⟨lit, hlit⟩ := h.lit.exists_channels_eq
  obtain ⟨dark, hdark⟩ := h.dark.exists_channels_eq
  exact ⟨⟨lit, dark⟩, palette_eq_ok_iff.mpr (by rw [hlit, hdark])⟩

lemma channels_colour {request : ColourRequest} {palette : Palette}
    (h : request.palette = .ok palette) (isLit : Bool) :
    (palette.colour isLit).channels = request.colour isLit := by
  rw [palette_eq_ok_iff.mp h]
  cases isLit <;> rfl

end ColourRequest

/-! ## What pictures show -/

namespace Image

/-- A picture shows the pixels of an array in the colours asked for, each as a square of side
`n`. -/
structure Shows (image : Image) (a : PixelArray) (request : ColourRequest) (n : ℕ) : Prop where
  /-- The picture has thirty-two rows of squares. -/
  height : image.rows.length = 32 * n
  /-- The picture has sixty-four columns of squares. -/
  width : ∀ row ∈ image.rows, row.length = 64 * n
  /-- At every place there is the colour of the pixel whose square lies there. -/
  colour : ∀ r < 32 * n, ∀ c < 64 * n,
    (image.pixel? r c).map Colour.channels = some (request.colour (a.lit (c / n) (r / n)))

/-- The array of the pixels whose squares of side `n` have a corner of the colour `lit`. -/
def sample (image : Image) (lit : Channels) (n : ℕ) : PixelArray :=
  .ofFn fun x y => (image.pixel? (y * n) (x * n)).map Colour.channels == some lit

/-- **The corners of the squares give the pixels back**, if the two colours differ. -/
theorem Shows.sample_eq {image : Image} {a : PixelArray} {request : ColourRequest} {n : ℕ}
    (h : image.Shows a request n) (hn : 0 < n) (ha : a.extents = [64, 32])
    (hcolours : request.lit ≠ request.dark) : image.sample request.lit n = a := by
  refine PixelArray.ext_lit rfl ha fun x hx y hy => ?_
  have hcorner := h.colour (y * n) (Nat.mul_lt_mul_of_pos_right hy hn) (x * n)
    (Nat.mul_lt_mul_of_pos_right hx hn)
  rw [Nat.mul_div_cancel x hn, Nat.mul_div_cancel y hn] at hcorner
  rw [sample, PixelArray.lit_ofFn _ hx hy, hcorner]
  cases a.lit x y with
  | true => exact beq_self_eq_true _
  | false => exact beq_false_of_ne fun hsame => hcolours (Option.some.inj hsame).symm

/-- A picture is drawn exactly of the array of a screen, in colours whose channels are bytes and
where there is room. -/
lemma ofArray_eq_ok_iff {host : Host} {a : PixelArray} {request : ColourRequest} {scale : ℤ}
    {image : Image} :
    ofArray host a request scale = .ok image ↔
      a.extents = [64, 32] ∧ HasRoom host scale ∧
        ∃ palette, request.palette = .ok palette ∧
          image = ofDisplay (.ofFn a.lit) palette scale := by
  by_cases ha : a.extents = [64, 32]
  case neg => simp [ofArray, PixelArray.display_of_extents_ne ha, ha, bind_eq_ok_iff]
  rw [ofArray, PixelArray.display_of_extents ha, ok_bind, render, bind_eq_ok_iff]
  simp only [draw_eq_ok_iff]
  constructor
  · rintro ⟨palette, hpalette, hroom, himage⟩
    exact ⟨ha, hroom, palette, hpalette, himage⟩
  · rintro ⟨-, hroom, palette, hpalette, himage⟩
    exact ⟨palette, hpalette, hroom, himage⟩

/-- A picture that is drawn shows its array. -/
lemma shows_of_ofArray {host : Host} {a : PixelArray} {request : ColourRequest} {scale : ℤ}
    {image : Image} (h : ofArray host a request scale = .ok image) :
    image.Shows a request (side scale) := by
  obtain ⟨-, -, palette, hpalette, rfl⟩ := ofArray_eq_ok_iff.mp h
  refine ⟨height_ofDisplay _ palette scale,
    fun row => length_row_ofDisplay _ palette scale, fun r hr c hc => ?_⟩
  have hx : c / side scale < 64 := (Nat.div_lt_iff_lt_mul (side_pos scale)).mpr hc
  have hy : r / side scale < 32 := (Nat.div_lt_iff_lt_mul (side_pos scale)).mpr hr
  rw [pixel?_ofDisplay _ palette hr hc, Option.map_some, request.channels_colour hpalette,
    Display.lit_ofFn, Nat.mod_eq_of_lt hx, Nat.mod_eq_of_lt hy]

end Image

namespace ColourRequest

/-- What pictures in given colours and at a given scale guarantee on a host. -/
structure Faithful (host : Host) (request : ColourRequest) (scale : ℤ) : Prop where
  /-- Pixels given column by column are drawn as their array is. -/
  grids : ∀ grid,
    Image.ofGrid host grid request scale = Image.ofArray host grid.array request scale
  /-- Screens are drawn as their arrays are. -/
  screens : ∀ d, Image.render host d request scale = Image.ofArray host d.array request scale
  /-- Where there is room, a picture is drawn, and it shows the pixels. -/
  drawn : request.InRange → Image.HasRoom host scale → ∀ a : PixelArray, a.extents = [64, 32] →
    ∃ image, Image.ofArray host a request scale = .ok image ∧
      image.Shows a request (Image.side scale)
  /-- Where there is none, no picture is drawn. -/
  noRoom : ¬Image.HasRoom host scale → ∀ a,
    ∃ error, Image.ofArray host a request scale = .error error
  /-- A picture in two colours gives the pixels back. -/
  recovered : request.lit ≠ request.dark → ∀ a image,
    Image.ofArray host a request scale = .ok image →
      image.sample request.lit (Image.side scale) = a
  /-- Only one array has a given picture in two colours. -/
  injective : request.lit ≠ request.dark → ∀ a b image,
    Image.ofArray host a request scale = .ok image →
      Image.ofArray host b request scale = .ok image → a = b
  /-- Pixels of other extents are refused. -/
  refused : ∀ a : PixelArray, a.extents ≠ [64, 32] →
    Image.ofArray host a request scale = .error (.displayShape a.extents)

/-- **Pictures are faithful** on every host, in all colours and at all scales. -/
theorem faithful (host : Host) (request : ColourRequest) (scale : ℤ) :
    request.Faithful host scale := by
  have hrecovered (hcolours : request.lit ≠ request.dark) (a : PixelArray) (image : Image)
      (himage : Image.ofArray host a request scale = .ok image) :
      image.sample request.lit (Image.side scale) = a :=
    (Image.shows_of_ofArray himage).sample_eq (Image.side_pos scale)
      (Image.ofArray_eq_ok_iff.mp himage).1 hcolours
  refine
    { grids := fun grid => (Image.ofArray_grid host grid request scale).symm
      screens := fun d => (Image.ofArray_array host d request scale).symm
      drawn := fun hrange hroom a ha => ?_
      noRoom := fun hroom a => ?_
      recovered := hrecovered
      injective := fun hcolours a b image ha hb =>
        (hrecovered hcolours a image ha).symm.trans (hrecovered hcolours b image hb)
      refused := fun a ha => by rw [Image.ofArray, PixelArray.display_of_extents_ne ha]; rfl }
  · obtain ⟨palette, hpalette⟩ := hrange.exists_palette
    have himage := Image.ofArray_eq_ok_iff.mpr ⟨ha, hroom, palette, hpalette, rfl⟩
    exact ⟨_, himage, Image.shows_of_ofArray himage⟩
  · cases himage : Image.ofArray host a request scale with
    | error error => exact ⟨error, rfl⟩
    | ok image => exact absurd (Image.ofArray_eq_ok_iff.mp himage).2.1 hroom

/-- The pixel in column three and row one is in row one and column three of the picture. -/
example :
    (Image.render .standard (.ofFn fun x y => x == 3 && y == 1) ⟨⟨1, 2, 3⟩, ⟨9, 9, 9⟩⟩
        1).toOption.map (fun image => (image.pixel? 1 3, image.pixel? 3 1)) =
      some (some ⟨1, 2, 3⟩, some ⟨9, 9, 9⟩) := by
  decide +kernel

/-- At a scale that is no word of sixty-four bits a dark screen has no picture on any host, although
it is one of sixty-four columns of thirty-two pixels. -/
theorem exists_undrawn_screen :
    Display.dark.array.extents = [64, 32] ∧
      ∀ host, Image.render host .dark ⟨⟨0, 255, 0⟩, ⟨0, 0, 0⟩⟩ 0x8000000000000000 =
        .error (.overflow .word) :=
  ⟨rfl, fun _ => rfl⟩

end ColourRequest

end Chip8
