set_option autoImplicit false

/-!
# Memory

Four kilobytes of memory. Every number is an address: only its value modulo 4096 counts, so an
access that runs past the end continues at the start.

## Main definitions

* `Chip8.Memory` — the 4096 cells.
* `Chip8.Memory.read`, `Chip8.Memory.write` — access to one cell.
* `Chip8.Memory.writeBytes` — stores consecutive bytes.
* `Chip8.Memory.readWord` — the big-endian word at an address.
* `Chip8.Memory.initial` — memory with nothing but the font.

## Main results

* `Chip8.Memory.read_write` — a cell holds what was last written to it.
* `Chip8.Memory.read_writeBytes` — consecutive bytes read back around the end of memory.
* `Chip8.Memory.ext_read` — memories with the same cells are equal.
-/

namespace Chip8

/-- Where programs are loaded and where execution begins. -/
def programStart : Nat := 0x200

/-- How many bytes of program fit between `programStart` and the end of memory. -/
def romCapacity : Nat := 3584

/-- Four kilobytes of memory. -/
structure Memory where
  /-- The cells in the order of their addresses. -/
  cells : Vector UInt8 4096
  deriving DecidableEq

namespace Memory

/-- Memory that holds zeros only. -/
def zero : Memory :=
  ⟨Vector.replicate 4096 0⟩

/-- The byte at an address. -/
def read (m : Memory) (a : Nat) : UInt8 :=
  m.cells[a % 4096]

/-- Stores a byte at an address. -/
def write (m : Memory) (a : Nat) (b : UInt8) : Memory :=
  ⟨m.cells.set (a % 4096) b⟩

/-- Stores bytes at consecutive addresses, beginning at `a`. -/
def writeBytes (m : Memory) (a : Nat) : List UInt8 → Memory
  | [] => m
  | b :: bs => (m.write a b).writeBytes (a + 1) bs

/-- The word at an address, its high byte first. -/
def readWord (m : Memory) (a : Nat) : UInt16 :=
  UInt16.ofNat (256 * (m.read a).toNat + (m.read (a + 1)).toNat)

/-! ## The font -/

/-- Where the font is kept. -/
def fontStart : Nat := 0x50

/-- How many bytes the glyph of one digit takes. -/
def glyphSize : Nat := 5

/-- The glyphs of the sixteen hexadecimal digits, five rows each. -/
def font : List UInt8 :=
  [ 0xF0, 0x90, 0x90, 0x90, 0xF0,
    0x20, 0x60, 0x20, 0x20, 0x70,
    0xF0, 0x10, 0xF0, 0x80, 0xF0,
    0xF0, 0x10, 0xF0, 0x10, 0xF0,
    0x90, 0x90, 0xF0, 0x10, 0x10,
    0xF0, 0x80, 0xF0, 0x10, 0xF0,
    0xF0, 0x80, 0xF0, 0x90, 0xF0,
    0xF0, 0x10, 0x20, 0x40, 0x40,
    0xF0, 0x90, 0xF0, 0x90, 0xF0,
    0xF0, 0x90, 0xF0, 0x10, 0xF0,
    0xF0, 0x90, 0xF0, 0x90, 0x90,
    0xE0, 0x90, 0xE0, 0x90, 0xE0,
    0xF0, 0x80, 0x80, 0x80, 0xF0,
    0xE0, 0x90, 0x90, 0x90, 0xE0,
    0xF0, 0x80, 0xF0, 0x80, 0xF0,
    0xF0, 0x80, 0xF0, 0x80, 0x80 ]

/-- The memory of a new machine: the font, and zeros elsewhere. -/
def initial : Memory :=
  zero.writeBytes fontStart font

/-! ## Cells -/

/-- An address reads like any other with the same value modulo 4096. -/
theorem read_mod (m : Memory) (a : Nat) : m.read (a % 4096) = m.read a := by
  simp [read]

/-- A cell holds what was last written to it. -/
theorem read_write (m : Memory) (a c : Nat) (b : UInt8) :
    (m.write a b).read c = if a % 4096 = c % 4096 then b else m.read c := by
  simp [read, write, Vector.getElem_set]

/-- Consecutive bytes read back at their distance from the first address, which is measured around
the end of memory; all other cells keep what they held.

**Proof sketch.** Induction on the bytes. The first byte lies at distance zero, and the distance
from the next address is one less for every other cell. At most 4096 bytes fit around the memory,
so the rest never comes back to the first one. -/
theorem read_writeBytes (m : Memory) (a c : Nat) (bs : List UInt8) (h : bs.length ≤ 4096) :
    (m.writeBytes a bs).read c = bs[(c + 4096 - a % 4096) % 4096]?.getD (m.read c) := by
  induction bs generalizing m a with
  | nil => simp [writeBytes]
  | cons b bs ih =>
    simp only [List.length_cons] at h
    rw [writeBytes, ih _ _ (by omega), read_write]
    by_cases heq : a % 4096 = c % 4096
    · -- the first cell: the rest does not reach it again
      have first : (c + 4096 - a % 4096) % 4096 = 0 := by omega
      have last : (c + 4096 - (a + 1) % 4096) % 4096 = 4095 := by omega
      rw [first, last, List.getElem?_eq_none (by omega)]
      simp [heq]
    · have next : (c + 4096 - a % 4096) % 4096 = (c + 4096 - (a + 1) % 4096) % 4096 + 1 := by
        omega
      rw [next, List.getElem?_cons_succ]
      simp [heq]

/-- Memories with the same cells are equal. -/
theorem ext_read {m m' : Memory} (h : ∀ a < 4096, m.read a = m'.read a) : m = m' := by
  obtain ⟨c⟩ := m
  obtain ⟨c'⟩ := m'
  congr 1
  ext i hi
  have := h i hi
  simp only [read, Nat.mod_eq_of_lt hi] at this
  rw [this]

end Memory

end Chip8
