import Chip8.Host.Standard
import Mathlib.Tactic

set_option autoImplicit false

/-!
# What may be assumed of hosts

What programs assume of their hosts holds of a host with a screen: it counts the iterations of loops
in words, and opens windows of the extents of the pictures that it has room for.

## Main results

* `Chip8.Host.countsWords_standard` — a host with a screen counts iterations in words.
* `Chip8.Host.opensForPictures_standard` — its windows have the extents of the pictures for them.
-/

namespace Chip8

/-- The pixels of a picture that there is room for are not large. -/
lemma Room.side_le_of_arrayHindrance? {side : ℕ}
    (h : arrayHindrance? [32 * side, 64 * side, 3] = none) : side ≤ 3344 := by
  by_contra hlarge
  have hside : 3345 ≤ side := by omega
  have hsize : bytes < [32 * side, 64 * side, 3].foldl (· * ·) 1 :=
    calc bytes < 1 * (32 * 3345) * (64 * 3345) * 3 := by decide
      _ ≤ 1 * (32 * side) * (64 * side) * 3 :=
          Nat.mul_le_mul_right 3 (Nat.mul_le_mul (by omega) (by omega))
  -- whatever else is looked at, there is no room in the end
  rw [arrayHindrance?, if_pos hsize] at h
  split_ifs at h

namespace Host

lemma arrayHindrance?_standard : standard.arrayHindrance? = Room.arrayHindrance? := rfl

lemma openWindow_standard : standard.openWindow = Standard.openWindow := rfl

/-- **A host with a screen counts iterations in words.** -/
theorem countsWords_standard : standard.CountsWords := by
  intro total htotal
  show Room.loopHindrance? total = none
  rw [Room.loopHindrance?]
  rcases le_or_gt total 0 with hnone | hsome
  · rw [decide_eq_true hnone, Bool.true_or, if_pos rfl]
  · have hfits : Word.fits32 total = true := by
      rw [Word.fits32, decide_eq_true_eq]
      omega
    rw [hfits, Bool.or_true, if_pos rfl]

/-- **The windows of a host with a screen have the extents of the pictures for them**: there is no
room for pictures whose extents are no words. -/
theorem opensForPictures_standard : standard.OpensForPictures := by
  intro side hpos hroom window hopen
  rw [arrayHindrance?_standard] at hroom
  have hside : side ≤ 3344 := by
    rcases Nat.lt_or_ge 1 side with hlarge | hsingle
    · exact Room.side_le_of_arrayHindrance? (hroom hlarge)
    · omega
  have hwidth : Word.low32 (64 * side) = 64 * side :=
    Word.low32_eq_self (by rw [Word.fits32, decide_eq_true_eq]; omega)
  have hheight : Word.low32 (32 * side) = 32 * side :=
    Word.low32_eq_self (by rw [Word.fits32, decide_eq_true_eq]; omega)
  rw [openWindow_standard, Standard.openWindow, hwidth, hheight] at hopen
  split_ifs at hopen with hwords hnegative hempty hlarge
  · omega
  · obtain rfl := Except.ok.inj hopen
    rw [Window.mk.injEq]
    omega

end Host

end Chip8
