import Chip8.Session.Window
import Mathlib.Tactic

set_option autoImplicit false

/-!
# Windows and their pictures

A picture is drawn where the host has room for it, and the scale is a word of the host. The window
of a session is as large as the pictures that are drawn in it, so that it shows nothing else.

## Main definitions

* `Chip8.Image.HasRoom` — a host has room for the pictures at a scale.
* `Chip8.Window.fitting` — the window that the pictures at a scale fill.

## Main results

* `Chip8.Image.hindrance?_eq_none_iff` — the scales at which pictures are drawn.
* `Chip8.Window.ofScale_eq_ok` — a window that is opened where there is room for its pictures is as
  large as they are.
* `Chip8.Window.framing_ofDisplay` — a window shows the picture that it is made for.
-/

namespace Chip8

namespace Image

/-! ## Extents of pictures -/

/-- Repeated members are as many times more. -/
lemma length_repeatEach {α : Type} (n : ℕ) (l : List α) :
    (repeatEach n l).length = n * l.length := by
  induction l with
  | nil => rfl
  | cons a l ih =>
    rw [repeatEach, List.flatMap_cons, List.length_append, List.length_replicate, List.length_cons,
      Nat.mul_succ, Nat.add_comm]
    exact congrArg (· + n) ih

/-- The picture of a screen has thirty-two rows of squares. -/
lemma height_ofDisplay (d : Display) (palette : Palette) (scale : ℤ) :
    (ofDisplay d palette scale).height = 32 * side scale := by
  simp [height, ofDisplay, length_repeatEach, Nat.mul_comm]

/-- The picture of a screen has sixty-four columns of squares. -/
lemma width_ofDisplay (d : Display) (palette : Palette) (scale : ℤ) :
    (ofDisplay d palette scale).width = 64 * side scale := by
  obtain ⟨n, hn⟩ : ∃ n, side scale = n + 1 := ⟨side scale - 1, by unfold side; omega⟩
  -- the squares have a side, so the first row is the first row of the first squares
  have hhead : (ofDisplay d palette scale).rows.headD [] =
      repeatEach (side scale) ((List.range 64).map fun x => palette.colour (d.lit x 0)) := by
    rw [ofDisplay, hn]
    rfl
  rw [width, hhead, length_repeatEach, List.length_map, List.length_range, Nat.mul_comm]

/-! ## Room for pictures -/

/-- The side of the squares at a positive scale is the scale. -/
lemma side_of_pos {scale : ℤ} (h : 1 ≤ scale) : side scale = scale.toNat := by
  unfold side
  omega

/-- A host has room for the pictures at a scale: the scale is a word of sixty-four bits, and there
are arrays for the pixels repeated downwards and for all places. Pictures of single places need
none. -/
def HasRoom (host : Host) (scale : ℤ) : Prop :=
  1 < scale → scale < 0x8000000000000000 ∧
    host.arrayHindrance? [32 * side scale, 64, 3] = none ∧
      host.arrayHindrance? [32 * side scale, 64 * side scale, 3] = none

instance (host : Host) (scale : ℤ) : Decidable (HasRoom host scale) :=
  inferInstanceAs (Decidable (_ → _))

/-- **The scales of pictures.** Only the lack of room keeps a picture from being drawn. -/
theorem hindrance?_eq_none_iff {host : Host} {scale : ℤ} :
    hindrance? host scale = none ↔ HasRoom host scale := by
  unfold hindrance? HasRoom
  by_cases hsmall : scale ≤ 1
  · exact ⟨fun _ hlarge => absurd hlarge (by omega), fun _ => if_pos hsmall⟩
  have hlarge : 1 < scale := by omega
  have hfits : Word.fits64 scale = decide (scale < 0x8000000000000000) := by
    rw [Word.fits64, decide_eq_decide]
    omega
  dsimp only
  rw [if_neg hsmall, side_of_pos (by omega), hfits]
  by_cases hword : scale < 0x8000000000000000
  · simp [hlarge, hword, Option.orElse_eq_orElse, Option.orElse_eq_or, Option.or_eq_none_iff]
  · simp [hlarge, hword]

/-- A picture is drawn exactly if there is room for it, and shows the display. -/
lemma draw_eq_ok_iff {host : Host} {d : Display} {palette : Palette} {scale : ℤ} {image : Image} :
    draw host d palette scale = .ok image ↔
      HasRoom host scale ∧ image = ofDisplay d palette scale := by
  rw [draw, ← hindrance?_eq_none_iff]
  cases hindrance? host scale with
  | none => simp [eq_comm]
  | some error => simp

end Image

namespace Window

/-! ## Windows that fit -/

/-- The window that the pictures at a scale fill. -/
def fitting (scale : ℤ) : Window :=
  ⟨64 * Image.side scale, 32 * Image.side scale⟩

/-- A window that is opened is as large as its pictures, if there is room for them. -/
lemma ofScale_eq_ok {host : Host} (hhost : host.OpensForPictures) {scale : ℤ} (h : 1 ≤ scale)
    (hroom : Image.HasRoom host scale) {window : Window} (hopen : ofScale host scale = .ok window) :
    window = fitting scale := by
  have hside : scale = Image.side scale := by
    rw [Image.side_of_pos h]
    omega
  have hpos : 0 < Image.side scale := by omega
  rw [ofScale, hside] at hopen
  exact hhost (Image.side scale) hpos (fun hlarge => (hroom (by omega)).2.2) window hopen

/-- A window shows the picture that it is made for, and nothing else. -/
lemma framing_ofDisplay (d : Display) (palette : Palette) (scale : ℤ) :
    (fitting scale).framing (.ofDisplay d palette scale) = .ofDisplay d palette scale :=
  if_pos ⟨Image.width_ofDisplay d palette scale, Image.height_ofDisplay d palette scale⟩

end Window

end Chip8
