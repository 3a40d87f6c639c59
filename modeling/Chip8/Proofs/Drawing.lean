import Chip8.Proofs.Cycle
import Mathlib.Data.List.Nodup

set_option autoImplicit false

/-!
# Drawing pixel by pixel

A sprite is drawn on the whole screen at once: each pixel is toggled if a set bit of the sprite
falls on it. A loop over the bits of the sprite, which toggles one pixel after the other, comes to
the same. It visits no pixel twice, since a sprite is neither wider nor higher than the screen, so
each pixel that it finds lit was lit before.

## Main definitions

* `Chip8.Canvas`, `Chip8.Canvas.plot` — a screen that is drawn on, and the toggling of one pixel.
* `Chip8.Sprite.cells` — the pixels under the set bits of a sprite, in the order of the loop.
* `Chip8.Machine.plotSprite` — the loop.

## Main results

* `Chip8.Canvas.foldl_plot` — what toggling pixels one after the other comes to.
* `Chip8.Sprite.foldl_plot_cells` — toggling the pixels of a sprite is drawing it.
* `Chip8.Machine.execute_draw_eq_plotSprite` — the drawing instruction does what the loop does.
-/

namespace Chip8

/-! ## Toggling pixels -/

/-- Columns are counted around the screen. -/
lemma Display.column_lt (x : ℕ) : x % 64 < 64 :=
  Nat.mod_lt x (Nat.succ_pos 63)

/-- Rows are counted around the screen. -/
lemma Display.row_lt (y : ℕ) : y % 32 < 32 :=
  Nat.mod_lt y (Nat.succ_pos 31)

/-- The screen with one pixel toggled. -/
def Display.toggle (d : Display) (x y : ℕ) : Display :=
  have hcolumn := column_lt x
  have hrow := row_lt y
  ⟨d.rows.set (y % 32) (d.rows[y % 32].set (x % 64) (!d.lit x y))⟩

/-- A toggle changes one pixel. -/
lemma Display.lit_toggle (d : Display) (x y x' y' : ℕ) :
    (d.toggle x y).lit x' y' =
      (d.lit x' y' ^^ decide (x % 64 = x' % 64 ∧ y % 32 = y' % 32)) := by
  simp only [toggle, lit, Vector.getElem_set]
  by_cases hy : y % 32 = y' % 32
  · by_cases hx : x % 64 = x' % 64 <;> simp [hx, hy]
  · simp [hy]

/-- A screen that is drawn on, and whether a lit pixel was switched off. -/
structure Canvas where
  /-- The screen. -/
  display : Display
  /-- Whether a lit pixel was switched off. -/
  collided : Bool

namespace Canvas

/-- Toggles a pixel, and takes note if it was lit. -/
def plot (c : Canvas) (pixel : ℕ × ℕ) : Canvas :=
  { display := c.display.toggle pixel.1 pixel.2
    collided := if c.display.lit pixel.1 pixel.2 then true else c.collided }

/-- A toggle of another pixel leaves a pixel as it is. -/
lemma lit_plot_of_ne (c : Canvas) {pixel other : ℕ × ℕ} (hpixel : pixel.1 < 64 ∧ pixel.2 < 32)
    (hother : other.1 < 64 ∧ other.2 < 32) (h : pixel ≠ other) :
    (c.plot pixel).display.lit other.1 other.2 = c.display.lit other.1 other.2 := by
  have hdiffer : ¬(pixel.1 % 64 = other.1 % 64 ∧ pixel.2 % 32 = other.2 % 32) := fun heq =>
    h (Prod.ext (by omega) (by omega))
  rw [plot, Display.lit_toggle, decide_eq_false hdiffer, Bool.xor_false]

/-- **Pixels that are toggled one after the other**, none of them twice: these are toggled and no
others, and one is found lit exactly if one was lit before the first was toggled.

**Proof sketch.** By induction on the pixels. The first toggle leaves the other pixels as they
were. -/
theorem foldl_plot (pixels : List (ℕ × ℕ)) (hnodup : pixels.Nodup)
    (hscreen : ∀ pixel ∈ pixels, pixel.1 < 64 ∧ pixel.2 < 32) (c : Canvas) :
    (∀ x < 64, ∀ y < 32, (pixels.foldl plot c).display.lit x y =
      (c.display.lit x y ^^ decide ((x, y) ∈ pixels))) ∧
    (pixels.foldl plot c).collided =
      (c.collided || pixels.any fun pixel => c.display.lit pixel.1 pixel.2) := by
  induction pixels generalizing c with
  | nil => simp
  | cons pixel pixels ih =>
    obtain ⟨hnotin, hnodup⟩ := List.nodup_cons.mp hnodup
    obtain ⟨hpixel, hscreen⟩ := List.forall_mem_cons.mp hscreen
    obtain ⟨hlit, hcollided⟩ := ih hnodup hscreen (c.plot pixel)
    constructor
    · intro x hx y hy
      rw [List.foldl_cons, hlit x hx y hy]
      by_cases heq : pixel = (x, y)
      · subst heq
        simp [plot, Display.lit_toggle, hnotin]
      · rw [c.lit_plot_of_ne hpixel ⟨hx, hy⟩ heq]
        simp [Ne.symm heq]
    · have hothers : (pixels.any fun other => (c.plot pixel).display.lit other.1 other.2) =
          pixels.any fun other => c.display.lit other.1 other.2 := by
        rw [Bool.eq_iff_iff, List.any_eq_true, List.any_eq_true]
        refine exists_congr fun other => and_congr_right fun hother => ?_
        rw [c.lit_plot_of_ne hpixel (hscreen other hother) fun heq => hnotin (heq ▸ hother)]
      rw [List.foldl_cons, hcollided, hothers, List.any_cons, plot]
      cases c.display.lit pixel.1 pixel.2 <;> simp

end Canvas

/-! ## The pixels of a sprite -/

namespace Sprite

/-- The pixels under the set bits of a sprite: rows from the top, each from the left. -/
def cells (s : Sprite) : List (ℕ × ℕ) :=
  (List.range s.height).flatMap fun row =>
    ((List.range 8).filter fun column => s.bit column row).map fun column =>
      ((s.left + column) % 64, (s.top + row) % 32)

/-- A pixel is under a set bit. -/
lemma mem_cells {s : Sprite} {pixel : ℕ × ℕ} :
    pixel ∈ s.cells ↔ ∃ row < s.height, ∃ column < 8, s.bit column row = true ∧
      ((s.left + column) % 64, (s.top + row) % 32) = pixel := by
  simp only [cells, List.mem_flatMap, List.mem_range, List.mem_map, List.mem_filter, and_assoc]

/-- The pixels of a sprite are on the screen. -/
lemma lt_of_mem_cells {s : Sprite} {pixel : ℕ × ℕ} (h : pixel ∈ s.cells) :
    pixel.1 < 64 ∧ pixel.2 < 32 := by
  obtain ⟨row, -, column, -, -, rfl⟩ := mem_cells.mp h
  exact ⟨Display.column_lt _, Display.row_lt _⟩

/-- No two bits of a sprite fall on the same pixel.

**Proof sketch.** Two of the eight columns differ by less than the width of the screen, and two rows
by less than its height. -/
lemma nodup_cells {s : Sprite} (h : s.height ≤ 32) : s.cells.Nodup := by
  refine List.nodup_flatMap.mpr ⟨fun row _ => ?_, ?_⟩
  · refine List.Nodup.map_on (fun column hcolumn other hother heq => ?_)
      (List.nodup_range.filter _)
    have := List.mem_range.mp (List.mem_filter.mp hcolumn).1
    have := List.mem_range.mp (List.mem_filter.mp hother).1
    have := congrArg Prod.fst heq
    dsimp only at this
    omega
  · refine List.nodup_range.imp_of_mem fun {row other} hrow hother hne => ?_
    rw [Function.onFun, List.disjoint_left]
    rintro pixel hpixel hpixel'
    obtain ⟨column, -, rfl⟩ := List.mem_map.mp hpixel
    obtain ⟨column', -, heq⟩ := List.mem_map.mp hpixel'
    have := List.mem_range.mp hrow
    have := List.mem_range.mp hother
    have := congrArg Prod.snd heq
    dsimp only at this
    exact hne (by omega)

/-- The pixels of a sprite are those that it covers. -/
lemma mem_cells_iff_covers {s : Sprite} (h : s.height ≤ 32) {x y : ℕ} (hx : x < 64) (hy : y < 32) :
    (x, y) ∈ s.cells ↔ s.covers x y = true := by
  rw [mem_cells]
  simp only [covers, Bool.and_eq_true, decide_eq_true_eq, Prod.mk.injEq]
  constructor
  · rintro ⟨row, hrow, column, hcolumn, hbit, hxy⟩
    have hcolumn' : (x + 64 - s.left % 64) % 64 = column := by omega
    have hrow' : (y + 32 - s.top % 32) % 32 = row := by omega
    rw [hcolumn', hrow']
    exact ⟨⟨hcolumn, hrow⟩, hbit⟩
  · rintro ⟨⟨hcolumn, hrow⟩, hbit⟩
    exact ⟨_, hrow, _, hcolumn, hbit, by omega, by omega⟩

/-- **Toggling the pixels of a sprite is drawing it**: the screens are the same, and a lit pixel is
found exactly if the sprite covers one. -/
theorem foldl_plot_cells {s : Sprite} (h : s.height ≤ 32) (d : Display) :
    s.cells.foldl Canvas.plot ⟨d, false⟩ = ⟨d.draw s, d.collides s⟩ := by
  obtain ⟨hlit, hcollided⟩ :=
    Canvas.foldl_plot s.cells (nodup_cells h) (fun _ => lt_of_mem_cells) ⟨d, false⟩
  have hdisplay : (s.cells.foldl Canvas.plot ⟨d, false⟩).display = d.draw s := by
    refine Display.ext_lit fun x hx y hy => ?_
    rw [hlit x hx y hy, Display.lit_draw, Nat.mod_eq_of_lt hx, Nat.mod_eq_of_lt hy]
    simp only [mem_cells_iff_covers h hx hy, Bool.decide_eq_true]
  have hany : (s.cells.foldl Canvas.plot ⟨d, false⟩).collided = d.collides s := by
    rw [hcollided, Bool.false_or, Bool.eq_iff_iff, Display.collides_iff, List.any_eq_true]
    constructor
    · rintro ⟨⟨x, y⟩, hcell, hon⟩
      obtain ⟨hx, hy⟩ := lt_of_mem_cells hcell
      exact ⟨x, hx, y, hy, hon, (mem_cells_iff_covers h hx hy).mp hcell⟩
    · rintro ⟨x, hx, y, hy, hon, hcovers⟩
      exact ⟨(x, y), (mem_cells_iff_covers h hx hy).mpr hcovers, hon⟩
  rw [← hdisplay, ← hany]

end Sprite

/-! ## The drawing instruction -/

namespace Machine

/-- Draws a sprite pixel by pixel: for each row and each of its eight bits, from the highest, whose
byte is read at the index register plus the row, a set bit toggles the pixel at the position held by
two registers plus the row and the column. Addresses go on at the start of memory behind its end,
and pixels at the opposite edge of the screen. -/
def plotSprite (s : Machine) (x y : Register) (height : ℕ) : Canvas :=
  (List.range height).foldl (fun c row =>
    (List.range 8).foldl (fun c column =>
      if (s.memory.read ((s.index.toNat + row) % 4096)).toNat.testBit (7 - column) then
        c.plot (((s.reg x).toNat + column) % 64, ((s.reg y).toNat + row) % 32)
      else c) c)
    { display := s.display, collided := false }

/-- The loop toggles the pixels of the sprite. -/
lemma plotSprite_eq_foldl (s : Machine) (x y : Register) (height : ℕ) :
    s.plotSprite x y height = (s.sprite x y height).cells.foldl Canvas.plot ⟨s.display, false⟩ := by
  simp only [Sprite.cells, List.foldl_flatMap, List.foldl_map, List.foldl_filter, plotSprite,
    Memory.read_mod]
  rfl

/-- **The drawing instruction does what the loop does**: the screen is the one that the loop leaves,
the flag register tells whether the loop found a lit pixel, and nothing else is touched. This holds
also where the flag register holds the position, which is read before. -/
theorem execute_draw_eq_plotSprite (s : Machine) (x y : Register) (height : Fin 16) :
    s.execute (0xD000 + 0x100 * x.val + 0x10 * y.val + height.val) =
      { s with
        display := (s.plotSprite x y height.val).display
        registers :=
          s.registers.set 0xF (if (s.plotSprite x y height.val).collided then 1 else 0) } := by
  have hheight : (s.sprite x y height.val).height ≤ 32 := by
    have := height.isLt
    simp only [sprite]
    omega
  have hdecode : Instruction.decode? (0xD000 + 0x100 * x.val + 0x10 * y.val + height.val : ℤ) =
      some (.draw x y height) :=
    Instruction.decode?_of_low (Opcode.low_natCast (Instruction.word_lt (.draw x y height)))
  rw [plotSprite_eq_foldl, Sprite.foldl_plot_cells hheight, execute, attempt, hdecode]
  cases hcollides : s.display.collides (s.sprite x y height.val) <;>
    simp only [Instruction.run, drawSprite, hcollides] <;> rfl

end Machine

end Chip8
