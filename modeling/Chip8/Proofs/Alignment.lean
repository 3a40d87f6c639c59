import Chip8.Proofs.Successor
import Mathlib.Algebra.Group.Nat.Even

set_option autoImplicit false

/-!
# Even addresses

Words are two bytes long and a program begins at an even address, so the program counter is even as
long as no instruction takes it to an odd one. Jumps, calls and jumps with an offset can do so, and
nothing else: the other instructions go on by whole words, and a return goes on at an address that a
call left on the stack, less what does not fit into twelve bits. So it takes the return addresses to
see that the program counter stays even, and these are even because the program counter was.

## Main definitions

* `Chip8.Instruction.AimsEven` — an instruction does not itself jump to an odd address.
* `Chip8.Machine.JumpsEvenly` — no cycle of a run jumps to an odd address.
* `Chip8.Machine.Aligned` — the program counter and all slots of the stack are even.

## Main results

* `Chip8.Machine.Aligned.step` — a cycle keeps a machine aligned unless it jumps to an odd address.
* `Chip8.Machine.aligned_of_run` — a run that does not jump to odd addresses is aligned throughout.
-/

namespace Chip8

/-! ## Slots of the stack -/

namespace CallStack

/-- All slots of a stack are even, whether they are in use or not. -/
def SlotsEven (s : CallStack) : Prop :=
  ∀ i (h : i < 16), Even s.slots[i].toNat

lemma slotsEven_empty : empty.SlotsEven := by
  intro i h
  simp [empty]

variable {s t : CallStack} {address : UInt16}

/-- One slot may be written with an even address. -/
lemma SlotsEven.set (h : s.SlotsEven) {k : ℕ} (hk : k < 16) (haddress : Even address.toNat) :
    ∀ i (hi : i < 16), Even (s.slots.set k address)[i].toNat := by
  intro i hi
  rw [Vector.getElem_set]
  split
  · exact haddress
  · exact h i hi

/-- A push writes an even address, which stays even when it is cut down to twelve bits. -/
lemma SlotsEven.push (h : s.SlotsEven) (haddress : Even address.toNat)
    (hp : s.push? address = some t) : t.SlotsEven := by
  have hcut : Even (address % 4096).toNat := by
    rw [UInt16.toNat_mod]
    exact haddress.mod_even (by decide)
  unfold push? at hp
  split at hp
  case isTrue hroom =>
    cases hp
    exact h.set hroom hcut
  case isFalse => cases hp

/-- A pop writes zero. -/
lemma SlotsEven.pop (h : s.SlotsEven) (hp : s.pop? = some (address, t)) : t.SlotsEven := by
  have hlast : s.depth - 1 < 16 := by
    have := s.depth_le
    omega
  unfold pop? at hp
  split at hp
  · cases hp
  · cases hp
    exact h.set hlast (by decide : Even 0)

/-- The addresses in use are in slots. -/
lemma SlotsEven.even_of_mem_addresses (h : s.SlotsEven) {a : ℕ} (ha : a ∈ s.addresses) :
    Even a := by
  obtain ⟨word, hword, rfl⟩ := List.mem_map.mp ha
  obtain ⟨i, hi, rfl⟩ := List.getElem_of_mem (List.mem_of_mem_take hword)
  rw [Vector.getElem_toList]
  exact h i (by simpa using hi)

end CallStack

/-! ## Jumps to even addresses -/

/-- An instruction does not itself jump to an odd address: the address that it names or computes is
even, if there is one. -/
def Instruction.AimsEven (s : Machine) : Instruction → Prop
  | .jump target | .call target => Even target.val
  | .jumpOffset target => Even (target.val + (s.reg .offset).toNat)
  | _ => True

instance (s : Machine) : DecidablePred (Instruction.AimsEven s)
  | .jump _ | .call _ | .jumpOffset _ => inferInstanceAs (Decidable (Even _))
  | .clear | .ret | .skipEqByte .. | .skipNeByte .. | .skipEqRegister .. | .skipNeRegister ..
  | .setByte .. | .addByte .. | .arithmetic .. | .setIndex _ | .random .. | .draw .. | .skipKey _
  | .skipNoKey _ | .readDelay _ | .awaitKey _ | .setDelay _ | .setSound _ | .addIndex _ | .glyph _
  | .storeDecimal _ | .storeRegisters _ | .loadRegisters _ => inferInstanceAs (Decidable True)

namespace Machine

/-- No cycle of a run jumps to an odd address. -/
def JumpsEvenly (start : Machine) (actions : List Action) : Prop :=
  ∀ m ∈ start.cycleStarts actions, ∀ i ∈ m.performed?, i.AimsEven m

instance (start : Machine) (actions : List Action) : Decidable (start.JumpsEvenly actions) :=
  inferInstanceAs (Decidable (∀ m ∈ start.cycleStarts actions, ∀ i ∈ m.performed?, i.AimsEven m))

/-- The program counter and all slots of the stack are even. -/
structure Aligned (s : Machine) : Prop where
  /-- The program counter is even. -/
  pc : Even s.pc.toNat
  /-- All slots of the stack are even, whether they are in use or not. -/
  slots : s.stack.SlotsEven

namespace Aligned

variable {s s' : Machine} {i : Instruction}

/-- Whole words lead from even addresses to even addresses, also where the program counter starts
again at zero. -/
lemma even_bytesOn (h : s.Aligned) {n : ℕ} (hn : Even n) : Even (s.bytesOn n) :=
  (h.pc.add hn).mod_even (by decide)

/-- An instruction goes on at an even address, unless it jumps to an odd one. -/
lemma even_of_successor? (h : s.Aligned) (haims : i.AimsEven s) {n : ℕ}
    (hn : i.successor? s = some n) : Even n := by
  cases i with
  | jump target | call target =>
    cases hn
    exact haims
  | jumpOffset target =>
    cases hn
    exact Even.mod_even haims (by decide)
  | ret => exact h.slots.even_of_mem_addresses (List.mem_of_getLast? hn)
  | awaitKey x =>
    cases hn
    split
    · exact h.even_bytesOn even_two
    · exact h.pc
  | _ =>
    cases hn
    exact h.even_bytesOn (by split <;> decide)

/-- An instruction leaves even slots, since a call pushes the address of the next word. -/
lemma slots_of_run (h : s.Aligned) (hrun : i.run s.advance = .ok s') : s'.stack.SlotsEven := by
  cases i with
  | call target =>
    have hnext : Even s.advance.pc.toNat := by
      rw [toNat_pc_advance]
      exact h.even_bytesOn even_two
    cases hp : s.advance.stack.push? s.advance.pc <;>
      simp only [Instruction.run, hp, reduceCtorEq] at hrun
    cases hrun
    exact h.slots.push hnext hp
  | ret =>
    cases hp : s.advance.stack.pop? <;> simp only [Instruction.run, hp, reduceCtorEq] at hrun
    cases hrun
    exact h.slots.pop hp
  | _ =>
    rw [stack_of_run hrun (by simp) (by simp)]
    exact h.slots

/-- **A cycle keeps a machine aligned** unless it jumps to an odd address. -/
theorem step (h : s.Aligned) (haims : ∀ i ∈ s.performed?, i.AimsEven s) : s.step.Aligned := by
  cases hi : s.performed? with
  | none =>
    rw [step_of_performed?_eq_none hi]
    exact ⟨h.pc, h.slots⟩
  | some i =>
    exact ⟨h.even_of_successor? (haims i hi) (successor?_of_performed hi),
      h.slots_of_run (run_of_performed hi)⟩

/-- Nothing but cycles moves the program counter or writes the stack. -/
lemma act_of_ne_step (h : s.Aligned) {action : Action} (haction : action ≠ .step) :
    (s.act action).Aligned := by
  rw [s.act_eq_of_ne_step haction]
  exact ⟨h.pc, h.slots⟩

end Aligned

/-! ## Runs -/

/-- **A run that does not jump to odd addresses is aligned throughout**, whatever the program is and
whatever cycles, periods of the timers and keys come in which order.

**Proof sketch.** A program begins at an even address with zeros on the stack. From there on every
cycle keeps the machine aligned, and nothing else moves the program counter or writes the stack. -/
theorem aligned_of_run (key : RandomKey) (rom : List UInt8) (hrom : rom.length ≤ romCapacity)
    (actions : List Action) :
    ∃ start, (new key).loadRom rom = .ok start ∧
      (start.JumpsEvenly actions → ∀ part, part <+: actions → (start.after part).Aligned) := by
  refine ⟨_, loadRom_eq_ok _ hrom, fun hjumps part hpart => ?_⟩
  refine after_of_cycleStarts (fun s action haction h => h.act_of_ne_step haction)
    (fun m hm h => h.step (hjumps m hm)) ?_ hpart
  have hpc : Even programStart := by decide
  exact ⟨hpc, CallStack.slotsEven_empty⟩

/-- A subroutine that skips a word outside the table, a wait for a key behind the call, and a return
without a call at the end. The program jumps evenly, and it is aligned when it has come
through all of these. -/
theorem aligned_of_run_through_fault :
    let rom := [0x22, 0x06, 0xF0, 0x0A, 0x00, 0xEE, 0x30, 0x00, 0xFF, 0xFF, 0x00, 0xEE]
    let actions : List Action := [.step, .step, .step, .step, .decrementTimers, .step, .press 5,
      .step, .step, .release 5, .step]
    rom.length ≤ romCapacity ∧
      ∃ start, (new ⟨0, 0⟩).loadRom rom = .ok start ∧
        start.JumpsEvenly actions ∧ (∀ part, part <+: actions → (start.after part).Aligned) ∧
        (start.after actions).faultCode = Trap.stackUnderflow.code ∧
        (start.after actions).pc = 0x204 := by
  intro rom actions
  obtain ⟨start, hload, hrun⟩ := aligned_of_run ⟨0, 0⟩ rom (by decide) actions
  have hstart := Except.ok.inj ((loadRom_eq_ok _ (by decide)).symm.trans hload)
  have hjumps : start.JumpsEvenly actions := by
    subst hstart
    decide +kernel
  refine ⟨by decide, start, hload, hjumps, hrun hjumps, ?_⟩
  subst hstart
  decide +kernel

end Machine

end Chip8
