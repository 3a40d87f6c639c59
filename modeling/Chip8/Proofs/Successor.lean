import Chip8.Proofs.Calls

set_option autoImplicit false

/-!
# Where execution goes on

A cycle moves the program counter past its word before the instruction is performed. Jumps, calls
and returns then put an address in its place, a skip moves it past one word more, and a wait for a
key that goes on takes it back. Here all of this is one table, which gives for each instruction the
place where the machine goes on, counted from the place of the instruction itself.

## Main definitions

* `Chip8.Instruction.Skips` — when an instruction skips the next one.
* `Chip8.Instruction.successor?` — where a machine goes on after an instruction.
* `Chip8.Instruction.Opposite` — pairs of skips on opposite conditions.
* `Chip8.Machine.Proceeds` — how a machine goes on that its next cycle does not stop.

## Main results

* `Chip8.Instruction.successor?_of_run` — the table is right for every instruction.
* `Chip8.Machine.proceeds_of_step` — every cycle that does not stop the machine goes on as the table
  says.
-/

namespace Chip8

/-- The place that is `n` bytes after the program counter, which is sixteen bits wide. -/
def Machine.bytesOn (s : Machine) (n : ℕ) : ℕ :=
  (s.pc.toNat + n) % 65536

namespace Instruction

/-! ## The table -/

/-- When an instruction skips the next one. -/
def Skips (s : Machine) : Instruction → Prop
  | .skipEqByte x byte => s.reg x = byte
  | .skipNeByte x byte => s.reg x ≠ byte
  | .skipEqRegister x y => s.reg x = s.reg y
  | .skipNeRegister x y => s.reg x ≠ s.reg y
  | .skipKey x => s.keypad.held (s.keyIn x) = true
  | .skipNoKey x => s.keypad.held (s.keyIn x) = false
  | _ => False

instance (s : Machine) : DecidablePred (Skips s)
  | .skipEqByte .. | .skipEqRegister .. | .skipKey _ | .skipNoKey _ =>
    inferInstanceAs (Decidable (_ = _))
  | .skipNeByte .. | .skipNeRegister .. => inferInstanceAs (Decidable (_ ≠ _))
  | .clear | .ret | .jump _ | .call _ | .setByte .. | .addByte .. | .arithmetic .. | .setIndex _
  | .jumpOffset _ | .random .. | .draw .. | .readDelay _ | .awaitKey _ | .setDelay _ | .setSound _
  | .addIndex _ | .glyph _ | .storeDecimal _ | .storeRegisters _ | .loadRegisters _ =>
    inferInstanceAs (Decidable False)

/-- Where a machine goes on after an instruction: at an address that the instruction names or
computes, at the latest return address, or counted from where the instruction stands. -/
def successor? (s : Machine) : Instruction → Option ℕ
  | .jump target | .call target => some target.val
  | .ret => s.stack.addresses.getLast?
  | .jumpOffset target => some ((target.val + (s.reg .offset).toNat) % 4096)
  | .awaitKey _ =>
    some (if s.awaitingKey = true ∧ s.lastKey ≠ none then s.bytesOn 2 else s.pc.toNat)
  | i => some (s.bytesOn (if i.Skips s then 4 else 2))

end Instruction

namespace Machine

variable (s : Machine)

/-! ## The program counter -/

lemma toNat_pc_advance : s.advance.pc.toNat = s.bytesOn 2 :=
  UInt16.toNat_add s.pc 2

lemma pc_arithmetic (op : ArithmeticOp) (x y : Register) : (s.arithmetic op x y).pc = s.pc := by
  rw [arithmetic_eq]

/-- A jump goes on at its target. -/
lemma toNat_pc_jumpTo {target : ℕ} (h : target < 4096) : (s.jumpTo target).pc.toNat = target :=
  UInt16.toNat_ofNat_of_lt' (h.trans (by decide))

/-- A skip moves the program counter by a word more if its condition holds. -/
lemma pc_skipIf (condition : Bool) :
    (s.advance.skipIf condition).pc = s.pc + if condition then 4 else 2 := by
  cases condition with
  | false => rfl
  | true => exact UInt16.add_assoc s.pc 2 2

lemma toNat_pc_skipIf {condition : Bool} {p : Prop} [Decidable p] (h : condition = true ↔ p) :
    (s.advance.skipIf condition).pc.toNat = s.bytesOn (if p then 4 else 2) := by
  rw [pc_skipIf, UInt16.toNat_add]
  by_cases hp : p
  · rw [if_pos (h.mpr hp), if_pos hp]
    rfl
  · rw [if_neg fun hc => hp (h.mp hc), if_neg hp]
    rfl

end Machine

namespace Instruction

/-- **The table is right for every instruction** that is performed.

**Proof sketch.** The instruction is performed with the program counter past its word already, and
reads nothing else that differs from the machine before. -/
theorem successor?_of_run {i : Instruction} {s s' : Machine} (h : i.run s.advance = .ok s') :
    i.successor? s = some s'.pc.toNat := by
  have hnext := s.toNat_pc_advance
  cases i with
  | jump target =>
    cases h
    exact congrArg some (Machine.toNat_pc_jumpTo _ target.isLt).symm
  | call target =>
    cases hp : s.advance.stack.push? s.advance.pc <;>
      simp only [run, hp, reduceCtorEq] at h
    cases h
    exact congrArg some (Machine.toNat_pc_jumpTo _ target.isLt).symm
  | ret =>
    cases hp : s.advance.stack.pop? <;> simp only [run, hp, reduceCtorEq] at h
    cases h
    -- the address that is popped was the last one in use
    show s.advance.stack.addresses.getLast? = _
    rw [CallStack.addresses, CallStack.toList_pop hp]
    simp
  | jumpOffset target =>
    cases h
    exact congrArg some (Machine.toNat_pc_jumpTo _ (Nat.mod_lt _ (by decide))).symm
  | awaitKey x =>
    cases h
    by_cases hfound : s.awaitingKey = true ∧ s.lastKey ≠ none
    · obtain ⟨k, hk⟩ := Option.ne_none_iff_exists'.mp hfound.2
      rw [Machine.awaitKey_of_latched (s := s.advance) x hfound.1 hk]
      exact congrArg some ((if_pos hfound).trans hnext.symm)
    · have hnot : s.awaitingKey = false ∨ s.lastKey = none := by
        simpa [or_iff_not_imp_left] using hfound
      -- the wait takes the program counter back to its own word
      have hpc : s.advance.pc - 2 = s.pc := UInt16.add_sub_cancel s.pc 2
      rw [Machine.awaitKey_of_unlatched (s := s.advance) x hnot, hpc]
      exact congrArg some (if_neg hfound)
  | skipEqByte x byte =>
    cases h
    exact congrArg some (s.toNat_pc_skipIf beq_iff_eq).symm
  | skipNeByte x byte =>
    cases h
    exact congrArg some (s.toNat_pc_skipIf bne_iff_ne).symm
  | skipEqRegister x y =>
    cases h
    exact congrArg some (s.toNat_pc_skipIf beq_iff_eq).symm
  | skipNeRegister x y =>
    cases h
    exact congrArg some (s.toNat_pc_skipIf bne_iff_ne).symm
  | skipKey x =>
    cases h
    exact congrArg some (s.toNat_pc_skipIf Iff.rfl).symm
  | skipNoKey x =>
    cases h
    exact congrArg some (s.toNat_pc_skipIf (by rw [Bool.not_eq_true']; rfl)).symm
  | arithmetic op x y =>
    cases h
    rw [Machine.pc_arithmetic, hnext]
    rfl
  | _ =>
    cases h
    exact congrArg some hnext.symm

/-! ## Skips on opposite conditions -/

/-- Pairs of skips on opposite conditions. -/
inductive Opposite : Instruction → Instruction → Prop where
  /-- A register equals a byte, or does not. -/
  | byte (x : Register) (byte : UInt8) : Opposite (.skipEqByte x byte) (.skipNeByte x byte)
  /-- Two registers are equal, or are not. -/
  | registers (x y : Register) : Opposite (.skipEqRegister x y) (.skipNeRegister x y)
  /-- The key named by a register is held, or is not. -/
  | key (x : Register) : Opposite (.skipKey x) (.skipNoKey x)

/-- Of two skips on opposite conditions, one is on a condition and the other on its negation. -/
lemma Opposite.exists_run {i j : Instruction} (h : Opposite i j) (s : Machine) :
    ∃ condition : Bool, ∀ m : Memory,
      i.run { s with memory := m } = .ok ({ s with memory := m }.skipIf condition) ∧
      j.run { s with memory := m } = .ok ({ s with memory := m }.skipIf !condition) := by
  cases h with
  | byte x byte => exact ⟨s.reg x == byte, fun _ => ⟨rfl, rfl⟩⟩
  | registers x y => exact ⟨s.reg x == s.reg y, fun _ => ⟨rfl, rfl⟩⟩
  | key x => exact ⟨s.keyHeld x, fun _ => ⟨rfl, rfl⟩⟩

end Instruction

/-! ## Cycles -/

namespace Machine

variable {s : Machine} {i : Instruction}

lemma performed?_of_run {s' : Machine} (hi : s.Executes i) (hrun : i.run s.advance = .ok s') :
    s.performed? = some i := by
  refine performed?_eq_some_iff.mpr ⟨hi, ?_⟩
  rw [step_of_run hi hrun]
  exact (fault_of_run hrun).trans hi.healthy

/-- A cycle that performs an instruction does what the instruction does. -/
lemma run_of_performed (h : s.performed? = some i) : i.run s.advance = .ok s.step := by
  obtain ⟨hi, hgoes⟩ := performed?_eq_some_iff.mp h
  rcases s.step_cases with ⟨r, hr, -⟩ | ⟨trap, -, -, hstep⟩ | ⟨j, s', hj, hrun, hstep⟩
  · exact absurd (hi.healthy.symm.trans hr) (by simp)
  · rw [hstep] at hgoes
    exact absurd hgoes (by simp [stopOn])
  · obtain rfl := Instruction.word_injective (hi.word.symm.trans hj.word)
    rw [hstep]
    exact hrun

/-- A cycle that performs no instruction changes nothing but the record. -/
lemma step_of_performed?_eq_none (h : s.performed? = none) :
    s.step = { s with fault := s.step.fault } := by
  rcases s.step_cases with ⟨r, -, hstep⟩ | ⟨trap, -, -, hstep⟩ | ⟨i, s', hi, hrun, -⟩
  · rw [hstep]
  · rw [hstep]
    rfl
  · exact absurd (h.symm.trans (performed?_of_run hi hrun)) (by simp)

/-- A cycle that does not stop the machine performs an instruction. -/
lemma exists_performed_of_step (hgoes : s.step.fault = none) : ∃ i, s.performed? = some i := by
  rcases s.step_cases with ⟨r, hr, -⟩ | ⟨trap, -, -, hstep⟩ | ⟨i, s', hi, hrun, -⟩
  · exact absurd ((fault_eq_none_of_step hgoes).symm.trans hr) (by simp)
  · rw [hstep] at hgoes
    exact absurd hgoes (by simp [stopOn])
  · exact ⟨i, performed?_of_run hi hrun⟩

/-- A cycle that performs an instruction goes on as the table says. -/
lemma successor?_of_performed (h : s.performed? = some i) :
    i.successor? s = some s.step.pc.toNat :=
  Instruction.successor?_of_run (run_of_performed h)

/-- How a machine goes on that its next cycle does not stop. -/
structure Proceeds (s : Machine) : Prop where
  /-- The next word is the word of an instruction. -/
  decodes : ∃ i, s.Executes i
  /-- The machine goes on where the table says for the instruction of its next word. -/
  successor : ∀ i, s.Executes i → i.successor? s = some s.step.pc.toNat
  /-- Of two skips on opposite conditions exactly one skips, if the one or the other is put into the
  memory at the program counter. -/
  opposite : ∀ i j, Instruction.Opposite i j → ∀ m m' : Memory,
    { s with memory := m }.Executes i → { s with memory := m' }.Executes j →
      { s with memory := m }.step.pc = s.pc + 4 ∧ { s with memory := m' }.step.pc = s.pc + 2 ∨
      { s with memory := m }.step.pc = s.pc + 2 ∧ { s with memory := m' }.step.pc = s.pc + 4

/-- **A cycle that does not stop the machine goes on as the table says**, and of two skips on
opposite conditions exactly one skips.

**Proof sketch.** Such a cycle performs the instruction of the next word, with the program counter
past the word. The condition of a skip depends on registers and keys only, so both machines of the
last part have the same. -/
theorem proceeds_of_step (s : Machine) (hgoes : s.step.fault = none) : s.Proceeds where
  decodes := by
    obtain ⟨i, hi⟩ := exists_performed_of_step hgoes
    exact ⟨i, (performed?_eq_some_iff.mp hi).1⟩
  successor := by
    intro i hi
    exact successor?_of_performed (performed?_eq_some_iff.mpr ⟨hi, hgoes⟩)
  opposite := by
    intro i j hopposite m m' hi hj
    obtain ⟨condition, hrun⟩ := hopposite.exists_run s.advance
    rw [step_of_run hi (hrun m).1, step_of_run hj (hrun m').2]
    have hpc := pc_skipIf { s with memory := m } condition
    have hpc' := pc_skipIf { s with memory := m' } !condition
    cases condition with
    | true => exact .inl ⟨hpc, hpc'⟩
    | false => exact .inr ⟨hpc, hpc'⟩

/-- A machine on the last word that its program counter can reach. The word skips on a register that
is zero, and the register is, so the machine goes on at address two; with the opposite skip in its
place it goes on at address zero. -/
theorem proceeds_of_step_last_word :
    let s := { new ⟨0, 0⟩ with
      pc := 0xFFFE
      memory := Memory.zero.writeBytes 0xFFE [0x30, 0x00] }
    s.step.fault = none ∧ s.Proceeds ∧ s.step.pc = 2 ∧
      { s with memory := Memory.zero.writeBytes 0xFFE [0x40, 0x00] }.step.pc = 0 := by
  intro s
  have hgoes : s.step.fault = none := by decide +kernel
  exact ⟨hgoes, proceeds_of_step s hgoes, by decide +kernel⟩

/-! ## Cycles of a run -/

/-- The machines at which the cycles of a run start, in order. -/
def cycleStarts (s : Machine) : List Action → List Machine
  | [] => []
  | .step :: actions => s :: s.step.cycleStarts actions
  | action :: actions => (s.act action).cycleStarts actions

/-- A cycle that follows a part of a run is the first action, or follows a part of the others. -/
lemma concat_step_prefix_cons_iff {part actions : List Action} {action : Action} :
    part ++ [.step] <+: action :: actions ↔
      part = [] ∧ action = .step ∨ ∃ rest, part = action :: rest ∧ rest ++ [.step] <+: actions := by
  cases part with
  | nil => simp [eq_comm]
  | cons first rest =>
    rw [List.cons_append, List.cons_prefix_cons]
    constructor
    · rintro ⟨rfl, hrest⟩
      exact .inr ⟨rest, rfl, hrest⟩
    · rintro (⟨hnil, -⟩ | ⟨rest, hpart, hrest⟩)
      · cases hnil
      · cases hpart
        exact ⟨rfl, hrest⟩

/-- The cycles of a run start where a part of the run ends that a cycle follows. -/
lemma mem_cycleStarts_iff {s m : Machine} {actions : List Action} :
    m ∈ s.cycleStarts actions ↔ ∃ part, part ++ [.step] <+: actions ∧ m = s.after part := by
  induction actions generalizing s with
  | nil => simp [cycleStarts]
  | cons action actions ih =>
    simp only [concat_step_prefix_cons_iff]
    constructor
    · intro hm
      cases action with
      | step =>
        rcases List.mem_cons.mp hm with rfl | hm
        · exact ⟨[], .inl ⟨rfl, rfl⟩, rfl⟩
        · obtain ⟨rest, hrest, rfl⟩ := ih.mp hm
          exact ⟨.step :: rest, .inr ⟨rest, rfl, hrest⟩, rfl⟩
      | decrementTimers | press | release | setKeypad =>
        obtain ⟨rest, hrest, rfl⟩ := ih.mp hm
        exact ⟨_ :: rest, .inr ⟨rest, rfl, hrest⟩, rfl⟩
    · rintro ⟨part, ⟨rfl, rfl⟩ | ⟨rest, rfl, hrest⟩, rfl⟩
      · exact List.mem_cons_self
      · have hm := ih.mpr ⟨rest, hrest, rfl⟩
        cases action with
        | step => exact List.mem_cons_of_mem _ hm
        | decrementTimers | press | release | setKeypad => exact hm

/-- **A property that every cycle of a run keeps holds all along the run**, if nothing but cycles
can make it false. -/
theorem after_of_cycleStarts {P : Machine → Prop}
    (hother : ∀ s action, action ≠ .step → P s → P (s.act action)) {s : Machine}
    {actions : List Action} (hcycles : ∀ m ∈ s.cycleStarts actions, P m → P m.step) (hs : P s)
    {part : List Action} (hpart : part <+: actions) : P (s.after part) := by
  induction part using List.reverseRecOn with
  | nil => exact hs
  | append_singleton part action ih =>
    rw [after_concat]
    have hbefore := ih ((List.prefix_append part [action]).trans hpart)
    by_cases haction : action = .step
    · subst haction
      exact hcycles _ (mem_cycleStarts_iff.mpr ⟨part, hpart, rfl⟩) hbefore
    · exact hother _ action haction hbefore

end Machine

end Chip8
