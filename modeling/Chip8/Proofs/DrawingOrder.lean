import Chip8.Proofs.Drawing
import Mathlib.Data.Finset.Card
import Mathlib.Data.Finset.Prod
import Mathlib.Data.Finset.SymmDiff

set_option autoImplicit false

/-!
# Sprites drawn in any order

Drawing a sprite replaces the set of lit pixels by its symmetric difference with the set of pixels
under the sprite. So sprites can be drawn in any order, a second drawing takes the first one back,
and the lit pixels can be counted: the pixels under the sprite join them, but for those that were
lit, which leave them.

A program draws by loading a position into two registers and an address into the index register.
What it finds in memory does not change by that, so the same holds of a list of such requests.

## Main definitions

* `Chip8.Display.litPixels`, `Chip8.Sprite.pixels` — the lit pixels, and those under the set bits of
  a sprite.
* `Chip8.DrawRequest`, `Chip8.DrawRequest.words` — a position, an address and a height, and the four
  instruction words that draw there.
* `Chip8.Machine.drawRequest`, `Chip8.Machine.drawRequests` — one request, and one after the other.
* `Chip8.Machine.TogglesPixels` — drawing by two registers is toggling pixels, in any order.

## Main results

* `Chip8.Display.litPixels_draw` — drawing is a symmetric difference.
* `Chip8.Sprite.card_pixels` — a sprite lies over as many pixels as it has set bits.
* `Chip8.Machine.togglesPixels` — drawing by any two different registers is toggling pixels.
-/

namespace Chip8

/-! ## Sprites on a screen -/

namespace Display

/-- Two sprites can be drawn in either order. -/
lemma draw_right_comm (d : Display) (s t : Sprite) : (d.draw s).draw t = (d.draw t).draw s := by
  apply ext_lit
  intro x _ y _
  simp only [lit_draw]
  exact Bool.xor_right_comm _ _ _

instance : RightCommutative draw :=
  ⟨draw_right_comm⟩

/-- A sprite that is drawn twice leaves no trace. -/
lemma draw_draw (d : Display) (s : Sprite) : (d.draw s).draw s = d := by
  apply ext_lit
  intro x _ y _
  simp only [lit_draw]
  rw [Bool.xor_assoc, Bool.xor_self, Bool.xor_false]

/-- Sprites that are drawn once more, the last one first, leave no trace.

**Proof sketch.** By induction on the sprites: the first one is drawn for the second time when all
the others are gone. -/
lemma foldl_draw_reverse (d : Display) (sprites : List Sprite) :
    sprites.reverse.foldl draw (sprites.foldl draw d) = d := by
  induction sprites generalizing d with
  | nil => rfl
  | cons s sprites ih =>
    simp only [List.reverse_cons, List.foldl_append, List.foldl_cons, List.foldl_nil]
    rw [ih, draw_draw]

/-- The columns and rows of the lit pixels. -/
def litPixels (d : Display) : Finset (ℕ × ℕ) :=
  (Finset.range 64 ×ˢ Finset.range 32).filter fun pixel => d.lit pixel.1 pixel.2 = true

lemma mem_litPixels {d : Display} {x y : ℕ} :
    (x, y) ∈ d.litPixels ↔ (x < 64 ∧ y < 32) ∧ d.lit x y = true := by
  simp only [litPixels, Finset.mem_filter, Finset.mem_product, Finset.mem_range]

end Display

namespace Sprite

/-- The columns and rows of the pixels under the set bits of a sprite. -/
def pixels (s : Sprite) : Finset (ℕ × ℕ) :=
  s.cells.toFinset

/-- The pixels under a sprite are those on the screen that it covers. -/
lemma mem_pixels {s : Sprite} (h : s.height ≤ 32) {x y : ℕ} :
    (x, y) ∈ s.pixels ↔ (x < 64 ∧ y < 32) ∧ s.covers x y = true := by
  rw [pixels, List.mem_toFinset]
  constructor
  · intro hcell
    obtain ⟨hx, hy⟩ := lt_of_mem_cells hcell
    exact ⟨⟨hx, hy⟩, (mem_cells_iff_covers h hx hy).mp hcell⟩
  · rintro ⟨⟨hx, hy⟩, hcovers⟩
    exact (mem_cells_iff_covers h hx hy).mpr hcovers

end Sprite

namespace Display

variable {s : Sprite}

/-- **Drawing is a symmetric difference** of the lit pixels with those under the sprite. -/
theorem litPixels_draw (d : Display) (h : s.height ≤ 32) :
    (d.draw s).litPixels = symmDiff d.litPixels s.pixels := by
  ext ⟨x, y⟩
  rw [Finset.mem_symmDiff, mem_litPixels, mem_litPixels, Sprite.mem_pixels h, lit_draw]
  by_cases hscreen : x < 64 ∧ y < 32
  · rw [Nat.mod_eq_of_lt hscreen.1, Nat.mod_eq_of_lt hscreen.2]
    cases d.lit x y <;> cases s.covers x y <;> simp [hscreen]
  · simp [hscreen]

/-- How drawing changes the number of lit pixels. -/
lemma card_litPixels_draw (d : Display) (h : s.height ≤ 32) :
    (d.draw s).litPixels.card + 2 * (d.litPixels ∩ s.pixels).card =
      d.litPixels.card + s.pixels.card := by
  have hdisjoint : Disjoint (d.litPixels \ s.pixels) (s.pixels \ d.litPixels) :=
    disjoint_sdiff_sdiff
  have hdrawn : (d.draw s).litPixels.card =
      (d.litPixels \ s.pixels).card + (s.pixels \ d.litPixels).card := by
    rw [litPixels_draw d h, ← Finset.card_union_of_disjoint hdisjoint]
    rfl
  have hleft := Finset.card_sdiff_add_card_inter d.litPixels s.pixels
  have hright := Finset.card_sdiff_add_card_inter s.pixels d.litPixels
  rw [Finset.inter_comm] at hright
  omega

/-- A sprite collides with the screen where there is a lit pixel under it. -/
lemma collides_iff_card_pos (d : Display) (h : s.height ≤ 32) :
    d.collides s = true ↔ 0 < (d.litPixels ∩ s.pixels).card := by
  rw [collides_iff, Finset.card_pos, Finset.Nonempty]
  simp only [Finset.mem_inter, Prod.exists, mem_litPixels, Sprite.mem_pixels h]
  constructor
  · rintro ⟨x, hx, y, hy, hlit, hcovers⟩
    exact ⟨x, y, ⟨⟨hx, hy⟩, hlit⟩, ⟨hx, hy⟩, hcovers⟩
  · rintro ⟨x, y, ⟨⟨hx, hy⟩, hlit⟩, -, hcovers⟩
    exact ⟨x, hx, y, hy, hlit, hcovers⟩

end Display

/-! ## The set bits of a sprite -/

/-- How many bits of a byte are set. -/
def bitCount (b : UInt8) : ℕ :=
  (List.range 8).countP fun i => b.toNat.testBit i

namespace Sprite

/-- The bits of a row are counted from the left, those of a byte from the right. -/
lemma countP_bit (s : Sprite) (row : ℕ) :
    (List.range 8).countP (fun column => s.bit column row) =
      bitCount (s.memory.read (s.start + row)) := by
  have hreverse : (List.range 8).map (7 - ·) = (List.range 8).reverse := by decide
  rw [bitCount, ← List.countP_reverse, ← hreverse, List.countP_map]
  rfl

/-- **A sprite lies over as many pixels as it has set bits**: it does not fold onto itself where it
goes on at the opposite edge. -/
theorem card_pixels {s : Sprite} (h : s.height ≤ 32) :
    s.pixels.card =
      ((List.range s.height).map fun row => bitCount (s.memory.read (s.start + row))).sum := by
  rw [pixels, List.toFinset_card_of_nodup (nodup_cells h), cells, List.length_flatMap]
  simp only [List.length_map, ← List.countP_eq_length_filter, countP_bit]

end Sprite

/-! ## Requests -/

/-- What a program draws: the position of a sprite, the address of its top row and its height. -/
structure DrawRequest where
  /-- The column of the left edge. -/
  left : UInt8
  /-- The row of the top edge. -/
  top : UInt8
  /-- The address of the top row. -/
  address : Fin 4096
  /-- The number of rows. -/
  height : Fin 16

namespace DrawRequest

/-- The words that draw by the registers `x` and `y`: two load the position, one loads the address,
and the last one draws. -/
def words (r : DrawRequest) (x y : Register) : List ℤ :=
  [0x6000 + 0x100 * x.val + r.left.toNat,
   0x6000 + 0x100 * y.val + r.top.toNat,
   0xA000 + r.address.val,
   0xD000 + 0x100 * x.val + 0x10 * y.val + r.height.val]

/-- The sprite that is drawn. -/
def sprite (r : DrawRequest) (m : Memory) : Sprite :=
  { memory := m, start := r.address.val, height := r.height.val
    left := r.left.toNat, top := r.top.toNat }

/-- How many bits are set in the rows in memory. -/
def setBits (r : DrawRequest) (m : Memory) : ℕ :=
  ((List.range r.height.val).map fun row =>
    bitCount (m.read ((r.address.val + row) % 4096))).sum

lemma height_sprite_le (r : DrawRequest) (m : Memory) : (r.sprite m).height ≤ 32 := by
  show r.height.val ≤ 32
  omega

lemma card_pixels_sprite (r : DrawRequest) (m : Memory) :
    (r.sprite m).pixels.card = r.setBits m := by
  rw [Sprite.card_pixels (r.height_sprite_le m)]
  simp only [setBits, Memory.read_mod]
  rfl

end DrawRequest

namespace Machine

/-- The machine after the words of a request. -/
def drawRequest (s : Machine) (x y : Register) (r : DrawRequest) : Machine :=
  (r.words x y).foldl execute s

/-- The machine after one request after the other. -/
def drawRequests (s : Machine) (x y : Register) (requests : List DrawRequest) : Machine :=
  requests.foldl (fun s r => s.drawRequest x y r) s

variable {x y : Register}

/-- The machine when the sprite of a request is drawn: position and address have been loaded. -/
def place (s : Machine) (x y : Register) (r : DrawRequest) : Machine :=
  { (s.setReg x r.left).setReg y r.top with index := UInt16.ofNat r.address.val }

/-- The registers hold the position when the sprite is drawn. -/
lemma sprite_place (s : Machine) (hne : x ≠ y) (r : DrawRequest) :
    (s.place x y r).sprite x y r.height.val = r.sprite s.memory := by
  have hx : (s.place x y r).reg x = r.left := by
    show ((s.setReg x r.left).setReg y r.top).reg x = r.left
    rw [reg_setReg, if_neg hne.symm, reg_setReg, if_pos rfl]
  have hy : (s.place x y r).reg y = r.top := by
    show ((s.setReg x r.left).setReg y r.top).reg y = r.top
    rw [reg_setReg, if_pos rfl]
  have hstart : (s.place x y r).index.toNat = r.address.val := by
    show (UInt16.ofNat r.address.val).toNat = r.address.val
    rw [UInt16.toNat_ofNat']
    omega
  rw [sprite, hx, hy, hstart]
  rfl

/-- What the four words of a request do. The flag register may hold the position as well: it is
loaded when the sprite has been drawn. -/
lemma drawRequest_eq (s : Machine) (hne : x ≠ y) (r : DrawRequest) :
    s.drawRequest x y r = (s.place x y r).drawSprite (r.sprite s.memory) := by
  have hleft : s.execute (0x6000 + 0x100 * x.val + r.left.toNat) = s.setReg x r.left :=
    execute_word_of_run (i := .setByte x r.left) rfl
  have htop : (s.setReg x r.left).execute (0x6000 + 0x100 * y.val + r.top.toNat) =
      (s.setReg x r.left).setReg y r.top :=
    execute_word_of_run (i := .setByte y r.top) rfl
  have hindex : ((s.setReg x r.left).setReg y r.top).execute (0xA000 + r.address.val) =
      s.place x y r :=
    execute_word_of_run (i := .setIndex r.address) rfl
  have hdraw : (s.place x y r).execute
        (0xD000 + 0x100 * x.val + 0x10 * y.val + r.height.val) =
      (s.place x y r).drawSprite ((s.place x y r).sprite x y r.height.val) :=
    execute_word_of_run (i := .draw x y r.height) rfl
  rw [drawRequest, DrawRequest.words, List.foldl_cons, hleft, List.foldl_cons, htop,
    List.foldl_cons, hindex, List.foldl_cons, hdraw, List.foldl_nil, sprite_place s hne]

lemma display_drawRequest (s : Machine) (hne : x ≠ y) (r : DrawRequest) :
    (s.drawRequest x y r).display = s.display.draw (r.sprite s.memory) := by
  rw [drawRequest_eq s hne]
  simp only [drawSprite, setFlag, setReg, place]

lemma memory_drawRequest (s : Machine) (hne : x ≠ y) (r : DrawRequest) :
    (s.drawRequest x y r).memory = s.memory := by
  rw [drawRequest_eq s hne]
  simp only [drawSprite, setFlag, setReg, place]

lemma reg_flag_drawRequest (s : Machine) (hne : x ≠ y) (r : DrawRequest) :
    (s.drawRequest x y r).reg .flag = (s.display.collides (r.sprite s.memory)).toUInt8 := by
  rw [drawRequest_eq s hne, drawSprite, setFlag, reg_setReg, if_pos rfl]
  simp only [setReg, place]

/-- Requests draw their sprites one after the other, all from the same memory.

**Proof sketch.** By induction on the requests: the first one leaves the memory as it is. -/
lemma display_drawRequests (s : Machine) (hne : x ≠ y) (requests : List DrawRequest) :
    (s.drawRequests x y requests).memory = s.memory ∧
      (s.drawRequests x y requests).display =
        (requests.map (·.sprite s.memory)).foldl Display.draw s.display := by
  induction requests generalizing s with
  | nil => exact ⟨rfl, rfl⟩
  | cons r requests ih =>
    obtain ⟨hmemory, hdisplay⟩ := ih (s.drawRequest x y r)
    rw [memory_drawRequest s hne] at hmemory hdisplay
    refine ⟨hmemory, ?_⟩
    rw [List.map_cons, List.foldl_cons, ← display_drawRequest s hne]
    exact hdisplay

/-- Drawing by the registers `x` and `y` toggles pixels, in any order. -/
structure TogglesPixels (s : Machine) (x y : Register) : Prop where
  /-- The order of the requests does not matter to the screen. -/
  order : ∀ requests requests' : List DrawRequest, requests.Perm requests' →
    (s.drawRequests x y requests).display = (s.drawRequests x y requests').display
  /-- The same requests once more, in any order, bring the screen back. -/
  undone : ∀ requests requests' : List DrawRequest, requests.Perm requests' →
    ((s.drawRequests x y requests).drawRequests x y requests').display = s.display
  /-- The set bits join the lit pixels, but for those over lit pixels, which go out. -/
  lit : ∀ r : DrawRequest,
    ((s.drawRequest x y r).display.litPixels.card : ℤ) =
      s.display.litPixels.card + r.setBits s.memory -
        2 * (s.display.litPixels ∩ (r.sprite s.memory).pixels).card
  /-- The flag register tells whether a lit pixel went out. -/
  flag : ∀ r : DrawRequest, (s.drawRequest x y r).reg .flag = 1 ↔
    0 < (s.display.litPixels ∩ (r.sprite s.memory).pixels).card

/-- **Drawing by any two different registers is toggling pixels**, whatever the machine.

**Proof sketch.** All requests draw from the memory of `s`. The order does not matter since two
sprites can be drawn in either order, and the reversed list, in which each sprite meets the screen
that its own drawing left, stands for any other order. -/
theorem togglesPixels (s : Machine) (hne : x ≠ y) : s.TogglesPixels x y where
  order := by
    intro requests requests' hperm
    rw [(display_drawRequests s hne requests).2, (display_drawRequests s hne requests').2]
    exact (hperm.map _).foldl_eq _
  undone := by
    intro requests requests' hperm
    obtain ⟨hmemory, hdisplay⟩ := display_drawRequests s hne requests
    have hreverse : (requests'.map (·.sprite s.memory)).Perm
        (requests.map (·.sprite s.memory)).reverse :=
      (hperm.symm.map _).trans (List.reverse_perm _).symm
    rw [(display_drawRequests _ hne requests').2, hmemory, hdisplay, hreverse.foldl_eq]
    exact Display.foldl_draw_reverse _ _
  lit := by
    intro r
    have hcard := s.display.card_litPixels_draw (r.height_sprite_le s.memory)
    rw [display_drawRequest s hne, ← r.card_pixels_sprite s.memory]
    omega
  flag := by
    intro r
    rw [reg_flag_drawRequest s hne,
      ← s.display.collides_iff_card_pos (r.height_sprite_le s.memory)]
    cases s.display.collides (r.sprite s.memory) <;> decide

/-- The digit zero, drawn across the corner of a dark screen, lights as many pixels as it has set
bits. -/
theorem togglesPixels_corner :
    (0 : Register) ≠ 1 ∧ (new ⟨0, 0⟩).TogglesPixels 0 1 ∧
      ((new ⟨0, 0⟩).drawRequest 0 1 ⟨62, 30, 0x50, 5⟩).display.litPixels.card = 14 := by
  have hne : (0 : Register) ≠ 1 := by decide
  have htoggles := togglesPixels (new ⟨0, 0⟩) hne
  refine ⟨hne, htoggles, ?_⟩
  have hlit := htoggles.lit ⟨62, 30, 0x50, 5⟩
  have hdark : (new ⟨0, 0⟩).display.litPixels = ∅ := by
    simp [Display.litPixels, new]
  have hbits : DrawRequest.setBits ⟨62, 30, 0x50, 5⟩ (new ⟨0, 0⟩).memory = 14 := by
    decide +kernel
  rw [hdark, hbits, Finset.empty_inter, Finset.card_empty] at hlit
  omega

end Machine

end Chip8
