set_option autoImplicit false

/-!
# The call stack

Sixteen slots for return addresses and the number of slots in use. The slots in use are the first
ones, the latest address last; a slot is cleared when its address is taken back.

## Main definitions

* `Chip8.CallStack` — the slots and the depth.
* `Chip8.CallStack.push?` — stores a return address, unless all slots are in use.
* `Chip8.CallStack.pop?` — takes back the latest return address, if there is one.
* `Chip8.CallStack.toList` — the addresses in use, the latest last.

## Main results

* `Chip8.CallStack.toList_push` — a push appends an address.
* `Chip8.CallStack.toList_pop` — a pop takes the last address away.
-/

namespace Chip8

/-- Sixteen slots for return addresses, of which the first `depth` are in use. -/
@[ext] structure CallStack where
  /-- The slots, in use or not. -/
  slots : Vector UInt16 16
  /-- How many slots are in use. -/
  depth : Nat
  /-- No more slots are in use than there are. -/
  depth_le : depth ≤ 16
  deriving DecidableEq

namespace CallStack

/-- The stack without any address. -/
def empty : CallStack :=
  { slots := Vector.replicate 16 0, depth := 0, depth_le := by decide }

/-- The addresses in use, the latest last. -/
def toList (s : CallStack) : List UInt16 :=
  s.slots.toList.take s.depth

/-- Stores the low twelve bits of a return address, unless all slots are in use. -/
def push? (s : CallStack) (address : UInt16) : Option CallStack :=
  if h : s.depth < 16 then
    some { slots := s.slots.set s.depth (address % 4096), depth := s.depth + 1, depth_le := h }
  else none

/-- Takes back the latest return address and clears its slot. -/
def pop? (s : CallStack) : Option (UInt16 × CallStack) :=
  if h : s.depth = 0 then none
  else
    have hd : s.depth - 1 < 16 := by have := s.depth_le; omega
    some (s.slots[s.depth - 1],
      { slots := s.slots.set (s.depth - 1) 0, depth := s.depth - 1, depth_le := Nat.le_of_lt hd })

/-! ## The addresses in use -/

/-- The depth counts the addresses in use. -/
@[simp] theorem length_toList (s : CallStack) : s.toList.length = s.depth := by
  simp [toList, Nat.min_eq_left s.depth_le]

/-- A push appends the low twelve bits of its address. -/
theorem toList_push {s t : CallStack} {address : UInt16} (h : s.push? address = some t) :
    t.toList = s.toList ++ [address % 4096] := by
  unfold push? at h
  split at h
  · rename_i hd
    cases h
    simp only [toList, Vector.toList_set]
    rw [List.take_add_one, List.take_set_of_le (Nat.le_refl _), List.getElem?_set_self (by simpa)]
    rfl
  · exact absurd h (by simp)

/-- A pop takes the last address away. -/
theorem toList_pop {s t : CallStack} {address : UInt16} (h : s.pop? = some (address, t)) :
    s.toList = t.toList ++ [address] := by
  unfold pop? at h
  split at h
  · exact absurd h (by simp)
  · rename_i hd
    have hlt : s.depth - 1 < 16 := by have := s.depth_le; omega
    cases h
    simp only [toList, Vector.toList_set]
    rw [List.take_set_of_le (Nat.le_refl _)]
    have hs : s.depth = s.depth - 1 + 1 := by omega
    conv => lhs; rw [hs, List.take_add_one]
    simp [hlt]

end CallStack

end Chip8
