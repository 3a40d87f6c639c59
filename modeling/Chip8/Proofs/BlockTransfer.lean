import Chip8.Proofs.Ownership

set_option autoImplicit false

/-!
# Registers and digits in memory

Three instructions move bytes between the registers and the memory at the index register: the
registers up to one of them are stored or loaded, and the decimal digits of a register are stored.
Addresses count around the end of memory, and at most sixteen cells are touched, so no cell is
touched twice. Hence what was stored can be loaded, what was loaded can be stored without an effect,
and a store that also writes back the cells behind the last register does the same as one that
stops there.

## Main definitions

* `Chip8.Machine.afterStore`, `Chip8.Machine.afterLoad`, `Chip8.Machine.afterDigits` — the machine
  after each of the three instruction words.
* `Chip8.Machine.window` — sixteen cells, the first ones replaced by registers.
* `Chip8.Machine.TransfersBytes` — what the three instructions guarantee.

## Main results

* `Chip8.Memory.ext_around` — memories that agree all the way round from an address are equal.
* `Chip8.Machine.transfersBytes` — the guarantees hold of every machine and register.
-/

namespace Chip8

/-! ## Distances in memory -/

namespace Memory

/-- Consecutive bytes read back at their distance from the first address. -/
lemma read_writeBytes_add (m : Memory) (a : ℕ) {bs : List UInt8} (hbs : bs.length ≤ 4096) {k : ℕ}
    (hk : k < 4096) : (m.writeBytes a bs).read (a + k) = bs[k]?.getD (m.read (a + k)) := by
  have hdistance : (a + k + 4096 - a % 4096) % 4096 = k := by omega
  rw [m.read_writeBytes a (a + k) bs hbs, hdistance]

/-- Memories that agree all the way round from an address are equal. -/
lemma ext_around {m m' : Memory} (a : ℕ) (h : ∀ k < 4096, m.read (a + k) = m'.read (a + k)) :
    m = m' := by
  apply ext_read
  intro c _
  have hk := h ((c + 4096 - a % 4096) % 4096) (by omega)
  have hc : (a + (c + 4096 - a % 4096) % 4096) % 4096 = c % 4096 := by omega
  rw [← m.read_mod, ← m'.read_mod, hc, m.read_mod, m'.read_mod] at hk
  exact hk

end Memory

namespace Machine

/-! ## Stored registers -/

/-- The machine after the word that stores the registers up to `x`. -/
def afterStore (s : Machine) (x : Register) : Machine :=
  s.execute (0xF055 + 0x100 * x.val)

/-- The machine after the word that loads the registers up to `x`. -/
def afterLoad (s : Machine) (x : Register) : Machine :=
  s.execute (0xF065 + 0x100 * x.val)

/-- The machine after the word that stores the decimal digits of the register `x`. -/
def afterDigits (s : Machine) (x : Register) : Machine :=
  s.execute (0xF033 + 0x100 * x.val)

variable (s : Machine) (x : Register)

lemma afterStore_eq :
    s.afterStore x = s.storeAtIndex (s.registers.toList.take (x.val + 1)) :=
  execute_word_of_run (i := .storeRegisters x) rfl

lemma afterLoad_eq : s.afterLoad x = s.loadFromIndex x :=
  execute_word_of_run (i := .loadRegisters x) rfl

lemma afterDigits_eq : s.afterDigits x = s.storeAtIndex (decimalDigits (s.reg x)) :=
  execute_word_of_run (i := .storeDecimal x) rfl

lemma index_afterStore : (s.afterStore x).index = s.index := by
  rw [afterStore_eq, storeAtIndex]

lemma length_block_le : (s.registers.toList.take (x.val + 1)).length ≤ 4096 := by
  have hlength := List.length_take_le (x.val + 1) s.registers.toList
  omega

/-- A cell within the block holds the register that belongs there. -/
lemma read_afterStore_of_le {x k : Register} (hk : k ≤ x) :
    (s.afterStore x).memory.read (s.index.toNat + k.val) = s.reg k := by
  have hlt : k.val < (s.registers.toList.take (x.val + 1)).length := by
    have hle : k.val ≤ x.val := hk
    rw [List.length_take, Vector.length_toList]
    omega
  rw [afterStore_eq, storeAtIndex,
    s.memory.read_writeBytes_add _ (s.length_block_le x) (by omega),
    List.getElem?_eq_getElem hlt, Option.getD_some, List.getElem_take, Vector.getElem_toList]
  rfl

/-- A cell behind the block keeps what it held. -/
lemma read_afterStore_of_lt {k : ℕ} (hx : x.val < k) (hk : k < 4096) :
    (s.afterStore x).memory.read (s.index.toNat + k) = s.memory.read (s.index.toNat + k) := by
  have hlength := List.length_take_le (x.val + 1) s.registers.toList
  rw [afterStore_eq, storeAtIndex, s.memory.read_writeBytes_add _ (s.length_block_le x) hk,
    List.getElem?_eq_none (by omega), Option.getD_none]

/-- The sixteen cells from the index register on, those up to the distance `x` replaced by the
registers. -/
def window : List UInt8 :=
  List.ofFn fun k : Register =>
    if k ≤ x then s.reg k else s.memory.read ((s.index.toNat + k.val) % 4096)

/-- A store may as well write the whole window.

**Proof sketch.** Round from the index register, the cells are those of the block, then the rest of
the window, which is written back as it was, and then those that neither of the two writes. -/
lemma memory_afterStore_eq_window :
    (s.afterStore x).memory = s.memory.writeBytes s.index.toNat (s.window x) := by
  have hwindow : (s.window x).length = 16 := List.length_ofFn
  apply Memory.ext_around s.index.toNat
  intro k hk
  rw [s.memory.read_writeBytes_add _ (by omega) hk]
  by_cases hk16 : k < 16
  · have hcell : (s.window x)[k]? = some (if (⟨k, hk16⟩ : Register) ≤ x then s.reg ⟨k, hk16⟩
        else s.memory.read ((s.index.toNat + k) % 4096)) := by
      rw [List.getElem?_eq_getElem (by omega)]
      simp only [window, List.getElem_ofFn]
    rw [hcell, Option.getD_some]
    by_cases hx : (⟨k, hk16⟩ : Register) ≤ x
    · rw [if_pos hx]
      exact s.read_afterStore_of_le hx
    · rw [if_neg hx, Memory.read_mod]
      exact s.read_afterStore_of_lt x (not_le.mp hx) hk
  · rw [List.getElem?_eq_none (by omega), Option.getD_none]
    exact s.read_afterStore_of_lt x (by omega) hk

/-! ## Loaded registers -/

lemma reg_afterLoad (k : Register) :
    (s.afterLoad x).reg k =
      if k ≤ x then s.memory.read (s.index.toNat + k.val) else s.reg k := by
  rw [afterLoad_eq, loadFromIndex, reg]
  simp only [Fin.getElem_fin, Vector.getElem_ofFn]

lemma memory_afterLoad : (s.afterLoad x).memory = s.memory := by
  rw [afterLoad_eq, loadFromIndex]

lemma index_afterLoad : (s.afterLoad x).index = s.index := by
  rw [afterLoad_eq, loadFromIndex]

/-- What has been loaded is stored where it came from. -/
lemma memory_afterStore_afterLoad : ((s.afterLoad x).afterStore x).memory = s.memory := by
  apply Memory.ext_around s.index.toNat
  intro k hk
  rw [← s.index_afterLoad x]
  by_cases hx : k ≤ x.val
  · have hlt : k < 16 := by omega
    have hle : (⟨k, hlt⟩ : Register) ≤ x := hx
    rw [(s.afterLoad x).read_afterStore_of_le hle, reg_afterLoad, if_pos hle, index_afterLoad]
  · rw [(s.afterLoad x).read_afterStore_of_lt x (not_le.mp hx) hk, memory_afterLoad]

/-! ## Stored digits -/

/-- Three digits below ten that make up a number. -/
structure DigitsOf (b hundreds tens ones : UInt8) : Prop where
  hundreds_le : hundreds ≤ 9
  tens_le : tens ≤ 9
  ones_le : ones ≤ 9
  value : 100 * hundreds.toNat + 10 * tens.toNat + ones.toNat = b.toNat

/-- The stored digits are those of the number. -/
lemma digitsOf (b : UInt8) : DigitsOf b (b / 100) (b / 10 % 10) (b % 10) := by
  have hb := b.toNat_lt
  constructor <;> simp only [UInt8.le_iff_toNat_le, UInt8.toNat_div, UInt8.toNat_mod,
    UInt8.reduceToNat] <;> omega

lemma read_afterDigits {k : ℕ} (hk : k < 4096) :
    (s.afterDigits x).memory.read (s.index.toNat + k) =
      (decimalDigits (s.reg x))[k]?.getD (s.memory.read (s.index.toNat + k)) := by
  have hlength : (decimalDigits (s.reg x)).length ≤ 4096 := by simp [decimalDigits]
  rw [afterDigits_eq, storeAtIndex, s.memory.read_writeBytes_add _ hlength hk]

lemma index_afterDigits : (s.afterDigits x).index = s.index := by
  rw [afterDigits_eq, storeAtIndex]

lemma digitsOf_afterDigits :
    DigitsOf (s.reg x) ((s.afterDigits x).memory.read s.index.toNat)
      ((s.afterDigits x).memory.read (s.index.toNat + 1))
      ((s.afterDigits x).memory.read (s.index.toNat + 2)) := by
  have hhundreds : (s.afterDigits x).memory.read s.index.toNat = s.reg x / 100 :=
    s.read_afterDigits x (k := 0) (by omega)
  have htens : (s.afterDigits x).memory.read (s.index.toNat + 1) = s.reg x / 10 % 10 :=
    s.read_afterDigits x (k := 1) (by omega)
  have hones : (s.afterDigits x).memory.read (s.index.toNat + 2) = s.reg x % 10 :=
    s.read_afterDigits x (k := 2) (by omega)
  rw [hhundreds, htens, hones]
  exact digitsOf (s.reg x)

/-! ## The three instructions -/

/-- What the transfers between memory and the registers up to `x`, and the storing of the digits of
`x`, guarantee. -/
structure TransfersBytes : Prop where
  /-- The registers are stored one after the other. -/
  stored : ∀ k ≤ x,
    (s.afterStore x).memory.read ((s.index.toNat + k.val) % 4096) = s.reg k
  /-- A store leaves all other cells alone. -/
  stored_elsewhere : ∀ a, (∀ k ≤ x, a % 4096 ≠ (s.index.toNat + k.val) % 4096) →
    (s.afterStore x).memory.read a = s.memory.read a
  /-- To write the whole window back comes to the same. -/
  stored_window : (s.afterStore x).memory = s.memory.writeBytes s.index.toNat (s.window x)
  /-- A load brings the stored registers back, whatever has become of the registers since, and
  leaves the others alone. -/
  loaded : ∀ (registers : Vector UInt8 16) (k : Register),
    ({ s.afterStore x with registers }.afterLoad x).reg k =
      if k ≤ x then s.reg k else registers.get k
  /-- A store of what has been loaded has no effect on memory. -/
  restored : ((s.afterLoad x).afterStore x).memory = s.memory
  /-- The digits are stored one after the other. -/
  digits : DigitsOf (s.reg x)
    ((s.afterDigits x).memory.read (s.index.toNat % 4096))
    ((s.afterDigits x).memory.read ((s.index.toNat + 1) % 4096))
    ((s.afterDigits x).memory.read ((s.index.toNat + 2) % 4096))
  /-- Storing the digits leaves all other cells alone. -/
  digits_elsewhere : ∀ a, (∀ k < 3, a % 4096 ≠ (s.index.toNat + k) % 4096) →
    (s.afterDigits x).memory.read a = s.memory.read a
  /-- A load brings the digits to the first three registers. -/
  digits_loaded : DigitsOf (s.reg x)
    (((s.afterDigits x).afterLoad 2).reg 0)
    (((s.afterDigits x).afterLoad 2).reg 1)
    (((s.afterDigits x).afterLoad 2).reg 2)
  /-- The index register stays where it is. -/
  index : (s.afterStore x).index = s.index ∧ (s.afterLoad x).index = s.index ∧
    (s.afterDigits x).index = s.index

/-- **Bytes pass through memory unharmed**, wherever the index register points and also around the
end of memory. -/
theorem transfersBytes : s.TransfersBytes x where
  stored := by
    intro k hk
    rw [Memory.read_mod]
    exact s.read_afterStore_of_le hk
  stored_elsewhere := by
    intro a ha
    rw [afterStore_eq]
    refine s.memory.read_writeBytes_of_forall_ne (s.length_block_le x) ?_
    intro k hk
    rw [List.length_take, Vector.length_toList] at hk
    exact ha ⟨k, by omega⟩ (show k ≤ x.val by omega)
  stored_window := s.memory_afterStore_eq_window x
  loaded := by
    intro registers k
    have hindex : (s.afterStore x).index = s.index := s.index_afterStore x
    rw [reg_afterLoad]
    by_cases hk : k ≤ x
    · rw [if_pos hk, if_pos hk, hindex]
      exact s.read_afterStore_of_le hk
    · rw [if_neg hk, if_neg hk]
      rfl
  restored := s.memory_afterStore_afterLoad x
  digits := by
    rw [Memory.read_mod, Memory.read_mod, Memory.read_mod]
    exact s.digitsOf_afterDigits x
  digits_elsewhere := by
    intro a ha
    rw [afterDigits_eq]
    exact s.memory.read_writeBytes_of_forall_ne (by simp [decimalDigits]) ha
  digits_loaded := by
    have hload : ∀ k : Register, k ≤ 2 → ((s.afterDigits x).afterLoad 2).reg k =
        (s.afterDigits x).memory.read (s.index.toNat + k.val) := by
      intro k hk
      rw [reg_afterLoad, if_pos hk, index_afterDigits]
    rw [hload 0 (by decide), hload 1 (by decide), hload 2 (by decide)]
    exact s.digitsOf_afterDigits x
  index := ⟨s.index_afterStore x, s.index_afterLoad x, s.index_afterDigits x⟩

end Machine

end Chip8
