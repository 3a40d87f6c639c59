import Chip8.Proofs.BlockTransfer

set_option autoImplicit false

/-!
# Programs in memory

A program is laid over the memory from `programStart` on: its bytes replace what was there, and all
other cells stay as they are. The largest program ends with the last cell, so no program runs around
the end of memory, and the machine fetches from it what the program holds.

A program that is loaded over another one leaves of the first what reaches beyond its own end.
Hence any number of programs comes to a single one, and a new machine holds nothing but the font and
the program.

## Main definitions

* `Chip8.overlay` — what is left of two programs that are loaded one after the other.
* `Chip8.Memory.image` — the cells of a new machine with a program.
* `Chip8.Machine.Carries` — a machine is another one with a program in its memory.
* `Chip8.Machine.LoadsPrograms` — what loading programs into a machine guarantees.

## Main results

* `Chip8.Memory.writeBytes_writeBytes` — a block written over another one.
* `Chip8.Machine.foldlM_loadRom` — programs loaded one after the other come to a single one.
* `Chip8.Machine.loadsPrograms` — the guarantees hold of every machine.
-/

namespace Chip8

/-- What is left of two programs that are loaded one after the other: the later one, and the part of
the earlier one beyond its end. -/
def overlay (earlier later : List UInt8) : List UInt8 :=
  later ++ earlier.drop later.length

lemma length_overlay (earlier later : List UInt8) :
    (overlay earlier later).length = max earlier.length later.length := by
  rw [overlay, List.length_append, List.length_drop]
  omega

lemma length_overlay_le {earlier later : List UInt8} {n : ℕ} (hearlier : earlier.length ≤ n)
    (hlater : later.length ≤ n) : (overlay earlier later).length ≤ n := by
  rw [length_overlay]
  exact max_le hearlier hlater

/-- A byte of the later program hides that of the earlier one. -/
lemma getElem?_overlay (earlier later : List UInt8) (k : ℕ) :
    (overlay earlier later)[k]? = later[k]?.or earlier[k]? := by
  rw [overlay]
  by_cases hk : k < later.length
  · rw [List.getElem?_append_left hk, List.getElem?_eq_getElem hk, Option.some_or]
  · have hbeyond : later.length + (k - later.length) = k := by omega
    rw [List.getElem?_append_right (not_lt.mp hk), List.getElem?_drop, hbeyond,
      List.getElem?_eq_none (not_lt.mp hk), Option.none_or]

/-- A program that fits ends within memory. -/
lemma programEnd_le {rom : List UInt8} (hrom : rom.length ≤ romCapacity) :
    programStart + rom.length ≤ 4096 := by
  rw [romCapacity] at hrom
  rw [programStart]
  omega

namespace Memory

/-! ## Blocks in memory -/

/-- A block that ends within memory replaces the cells from its start on as far as it reaches. -/
lemma read_writeBytes_of_le (m : Memory) {start a : ℕ} {bs : List UInt8}
    (hbs : start + bs.length ≤ 4096) (ha : a < 4096) :
    (m.writeBytes start bs).read a =
      if start ≤ a then bs[a - start]?.getD (m.read a) else m.read a := by
  rw [m.read_writeBytes start a bs (by omega)]
  split
  case isTrue h =>
    have hdistance : (a + 4096 - start % 4096) % 4096 = a - start := by omega
    rw [hdistance]
  case isFalse h => rw [List.getElem?_eq_none (by omega), Option.getD_none]

/-- **A block written over another one** at the same place leaves the overlay of the two. -/
theorem writeBytes_writeBytes (m : Memory) (start : ℕ) {earlier later : List UInt8}
    (hearlier : earlier.length ≤ 4096) (hlater : later.length ≤ 4096) :
    (m.writeBytes start earlier).writeBytes start later =
      m.writeBytes start (overlay earlier later) := by
  apply ext_around start
  intro k hk
  rw [read_writeBytes_add _ start hlater hk, m.read_writeBytes_add start hearlier hk,
    m.read_writeBytes_add start (length_overlay_le hearlier hlater) hk, getElem?_overlay]
  cases later[k]? <;> rfl

lemma getElem?_toList_cells (m : Memory) {a : ℕ} (ha : a < 4096) :
    m.cells.toList[a]? = some (m.read a) := by
  rw [List.getElem?_eq_getElem (by rwa [Vector.length_toList]), Vector.getElem_toList]
  simp only [read, Nat.mod_eq_of_lt ha]

/-- A block that ends within memory lies between the cells before it and those behind it. -/
lemma toList_cells_writeBytes (m : Memory) {start : ℕ} {bs : List UInt8}
    (hbs : start + bs.length ≤ 4096) :
    (m.writeBytes start bs).cells.toList =
      m.cells.toList.take start ++ bs ++ m.cells.toList.drop (start + bs.length) := by
  have hcells : m.cells.toList.length = 4096 := Vector.length_toList
  have hbefore : (m.cells.toList.take start).length = start := by
    rw [List.length_take, hcells]
    omega
  rw [List.append_assoc]
  apply List.ext_getElem?
  intro a
  rcases Nat.lt_or_ge a 4096 with ha | ha
  · rw [getElem?_toList_cells _ ha, read_writeBytes_of_le m hbs ha]
    split
    case isTrue hstart =>
      rw [List.getElem?_append_right (by omega), hbefore]
      rcases Nat.lt_or_ge (a - start) bs.length with hin | hbehind
      · rw [List.getElem?_append_left hin, List.getElem?_eq_getElem hin, Option.getD_some]
      · have hback : start + bs.length + (a - start - bs.length) = a := by omega
        rw [List.getElem?_append_right hbehind, List.getElem?_drop, hback,
          List.getElem?_eq_none hbehind, Option.getD_none, getElem?_toList_cells m ha]
    case isFalse hstart =>
      rw [List.getElem?_append_left (by omega), List.getElem?_take_of_lt (not_le.mp hstart),
        getElem?_toList_cells m ha]
  · rw [List.getElem?_eq_none (by rw [Vector.length_toList]; exact ha),
      List.getElem?_eq_none (by
        rw [List.length_append, List.length_append, List.length_drop, hbefore, hcells]
        omega)]

/-! ## Memory of a new machine -/

/-- The cells of a new machine with a program, from the first to the last: the font and the program,
and zeros around them. -/
def image (rom : List UInt8) : List UInt8 :=
  List.replicate 0x50 0 ++ font ++ List.replicate 0x160 0 ++ rom ++
    List.replicate (romCapacity - rom.length) 0

/-- A new machine with a program holds the cells of its image. -/
lemma toList_cells_initial {rom : List UInt8} (hrom : rom.length ≤ romCapacity) :
    (initial.writeBytes programStart rom).cells.toList = image rom := by
  have hzero : zero.cells.toList = List.replicate 4096 0 := Vector.toList_replicate
  -- the cells of a machine without a program, divided where programs are loaded
  have hinitial : initial.cells.toList =
      List.replicate 0x50 0 ++ font ++ List.replicate 0x160 0 ++ List.replicate romCapacity 0 := by
    rw [initial, toList_cells_writeBytes _ (by decide), hzero, List.take_replicate,
      List.drop_replicate, List.append_assoc _ (List.replicate 0x160 0),
      List.replicate_append_replicate]
    rfl
  have hbefore : (List.replicate 0x50 0 ++ font ++ List.replicate 0x160 0).length =
      programStart := by
    rw [List.length_append, List.length_append, List.length_replicate, List.length_replicate]
    rfl
  rw [toList_cells_writeBytes _ (programEnd_le hrom), hinitial, image, ← hbefore, List.take_left,
    List.drop_length_add_append, List.drop_replicate]

end Memory

namespace Machine

variable (s : Machine)

/-! ## Loading -/

lemma loadRom_eq_error {rom : List UInt8} (h : romCapacity < rom.length) :
    s.loadRom rom = .error (.romTooLarge rom.length romCapacity) := by
  rw [loadRom, if_neg (not_le.mpr h)]

/-- A machine is another one with a program in its memory. -/
structure Carries (rom : List UInt8) (s' : Machine) : Prop where
  /-- The bytes of the program follow one another from `programStart` on, and all of them lie within
  memory. -/
  program : ∀ (i : ℕ) (h : i < rom.length),
    programStart + i < 4096 ∧ s'.memory.read (programStart + i) = rom[i]
  /-- All other cells hold what they held. -/
  elsewhere : ∀ a < 4096, (∀ i < rom.length, a ≠ programStart + i) →
    s'.memory.read a = s.memory.read a
  /-- Nothing but memory differs. -/
  rest : s' = { s with memory := s'.memory }
  /-- A machine that stands in the program finds two of its bytes as the next word, the first of
  them as the high byte. -/
  word : ∀ (i : ℕ) (h : i + 1 < rom.length),
    { s' with pc := UInt16.ofNat (programStart + i) }.nextWord.toNat =
      256 * rom[i].toNat + rom[i + 1].toNat

/-- A program that fits is carried once it is loaded. -/
lemma carries_of_le {rom : List UInt8} (hrom : rom.length ≤ romCapacity) :
    s.Carries rom { s with memory := s.memory.writeBytes programStart rom } := by
  have hend := programEnd_le hrom
  have hread : ∀ (i : ℕ) (h : i < rom.length),
      (s.memory.writeBytes programStart rom).read (programStart + i) = rom[i] := by
    intro i h
    rw [Memory.read_writeBytes_of_le _ hend (by omega), if_pos (by omega),
      Nat.add_sub_cancel_left, List.getElem?_eq_getElem h, Option.getD_some]
  refine ⟨fun i h => ⟨by omega, hread i h⟩, ?_, rfl, ?_⟩
  · intro a ha hother
    show (s.memory.writeBytes programStart rom).read a = s.memory.read a
    rw [Memory.read_writeBytes_of_le _ hend ha]
    split
    case isTrue hstart =>
      rw [List.getElem?_eq_none, Option.getD_none]
      by_contra hinside
      exact hother (a - programStart) (by omega) (by omega)
    case isFalse => rfl
  · intro i h
    have hpc : (UInt16.ofNat (programStart + i)).toNat = programStart + i :=
      UInt16.toNat_ofNat_of_lt' (by
        rw [UInt16.size]
        omega)
    rw [nextWord, hpc, Memory.toNat_readWord, hread i (by omega), Nat.add_assoc,
      hread (i + 1) h]

/-! ## Programs one after the other -/

/-- Two programs loaded one after the other come to their overlay. -/
lemma loadRom_bind_loadRom {earlier later : List UInt8} (hearlier : earlier.length ≤ romCapacity)
    (hlater : later.length ≤ romCapacity) :
    ((s.loadRom earlier).bind fun s' => s'.loadRom later) = s.loadRom (overlay earlier later) := by
  have hle : ∀ {rom : List UInt8}, rom.length ≤ romCapacity → rom.length ≤ 4096 := fun h =>
    h.trans (by decide)
  rw [loadRom_eq_ok _ hearlier, loadRom_eq_ok _ (length_overlay_le hearlier hlater), Except.bind,
    loadRom_eq_ok _ hlater, Memory.writeBytes_writeBytes _ _ (hle hearlier) (hle hlater)]

/-- **Programs loaded one after the other come to a single one**, in which each hides the earlier
ones as far as it reaches.

**Proof sketch.** By induction on the programs: the first two are replaced by their overlay, which
fits if they do. -/
theorem foldlM_loadRom {first : List UInt8} (hfirst : first.length ≤ romCapacity)
    {roms : List (List UInt8)} (hroms : ∀ rom ∈ roms, rom.length ≤ romCapacity) :
    ((s.loadRom first).bind fun s' => roms.foldlM loadRom s') =
      s.loadRom (roms.foldl overlay first) := by
  induction roms generalizing first with
  | nil =>
    rw [List.foldl_nil]
    cases s.loadRom first <;> rfl
  | cons rom roms ih =>
    have hrom := hroms rom List.mem_cons_self
    rw [List.foldl_cons, ← ih (length_overlay_le hfirst hrom) fun r hr =>
      hroms r (List.mem_cons_of_mem _ hr), ← s.loadRom_bind_loadRom hfirst hrom]
    cases s.loadRom first <;> rfl

/-! ## What loading guarantees -/

/-- What loading programs into a machine guarantees. -/
structure LoadsPrograms : Prop where
  /-- A program that is too large is refused, with its size and the room there is, and leaves the
  machine as it was. -/
  refused : ∀ rom : List UInt8, romCapacity < rom.length →
    s.loadRom rom = .error (.romTooLarge rom.length romCapacity) ∧ s.settle (s.loadRom rom) = s
  /-- Any other program is loaded. -/
  loaded : ∀ rom : List UInt8, rom.length ≤ romCapacity →
    ∃ s', s.loadRom rom = .ok s' ∧ s.Carries rom s'
  /-- A program hides an earlier one as far as it reaches. -/
  hides : ∀ earlier later : List UInt8, earlier.length ≤ romCapacity →
    later.length ≤ romCapacity →
      ((s.loadRom earlier).bind fun s' => s'.loadRom later) =
        s.loadRom (later ++ earlier.drop later.length)
  /-- Any number of programs comes to a single one. -/
  successive : ∀ roms : List (List UInt8), (∀ rom ∈ roms, rom.length ≤ romCapacity) →
    roms.foldlM loadRom s = s.loadRom (roms.foldl overlay [])
  /-- A new machine holds the font and the program, and zeros elsewhere. -/
  fresh : ∀ key, s = new key → ∀ rom : List UInt8, rom.length ≤ romCapacity →
    ∃ s', s.loadRom rom = .ok s' ∧ s'.memory.cells.toList = Memory.image rom

/-- **Programs are laid exactly over the memory**, in every machine and at every length, and what is
fetched from there is what they hold. -/
theorem loadsPrograms : s.LoadsPrograms where
  refused := by
    intro rom h
    rw [s.loadRom_eq_error h]
    exact ⟨rfl, rfl⟩
  loaded := by
    intro rom h
    exact ⟨_, s.loadRom_eq_ok h, s.carries_of_le h⟩
  hides := by
    intro earlier later hearlier hlater
    exact s.loadRom_bind_loadRom hearlier hlater
  successive := by
    intro roms hroms
    have hnone : s.loadRom [] = .ok s := s.loadRom_eq_ok (Nat.zero_le _)
    rw [← s.foldlM_loadRom (Nat.zero_le _) hroms, hnone]
    rfl
  fresh := by
    rintro key rfl rom h
    exact ⟨_, loadRom_eq_ok _ h, Memory.toList_cells_initial h⟩

end Machine

end Chip8
