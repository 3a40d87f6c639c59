import Chip8.Proofs.Calls

set_option autoImplicit false

/-!
# What each instruction may write

Every part of a machine belongs to a few instructions, and no other instruction writes it. Memory
belongs to the two instructions that store, and to each of them only as far as it stores, which is
counted from the index register around the end of memory. The keys belong to no instruction at all,
and the fault record belongs to the cycles that stop the machine.

## Main definitions

* `Chip8.Part`, `Chip8.Part.Kept` — a part of a machine, and that it is the same in two machines.
* `Chip8.Instruction.Loads` — the registers that an instruction may load.
* `Chip8.Instruction.Writes` — the parts that an instruction may write.
* `Chip8.Machine.KeepsToOwn` — cycles and runs write nothing but what they may.

## Main results

* `Chip8.Instruction.kept_of_run` — an instruction keeps what it may not write.
* `Chip8.Machine.memory_after` — a run that performs no instruction that stores keeps the memory.
* `Chip8.Machine.keepsToOwn` — every machine keeps to what its instructions own.
-/

namespace Chip8

/-! ## Parts of a machine -/

/-- A part of a machine that an instruction could write, cells of memory and registers one by one.
The program counter, which every instruction writes, and the fault record are left out. -/
inductive Part where
  /-- A cell of memory. -/
  | cell (address : ℕ)
  /-- The screen. -/
  | display
  /-- The return addresses. -/
  | stack
  /-- The state of the random generator. -/
  | randomKey
  /-- The timer that programs read. -/
  | delayTimer
  /-- The timer that sounds the buzzer. -/
  | soundTimer
  /-- The index register. -/
  | index
  /-- The key pressed last. -/
  | lastKey
  /-- Whether an instruction waits for a key. -/
  | awaitingKey
  /-- The held keys. -/
  | keypad
  /-- A general-purpose register. -/
  | register (j : Register)

/-- A part is the same in two machines. -/
def Part.Kept (s s' : Machine) : Part → Prop
  | cell address => s'.memory.read address = s.memory.read address
  | display => s'.display = s.display
  | stack => s'.stack = s.stack
  | randomKey => s'.randomKey = s.randomKey
  | delayTimer => s'.delayTimer = s.delayTimer
  | soundTimer => s'.soundTimer = s.soundTimer
  | index => s'.index = s.index
  | lastKey => s'.lastKey = s.lastKey
  | awaitingKey => s'.awaitingKey = s.awaitingKey
  | keypad => s'.keypad = s.keypad
  | register j => s'.reg j = s.reg j

/-! ## The table -/

/-- Whether an arithmetic operation loads the flag. -/
def ArithmeticOp.hasFlag : ArithmeticOp → Bool
  | .copy | .or | .and | .xor => false
  | .add | .sub | .shiftRight | .subFrom | .shiftLeft => true

namespace Instruction

/-- The registers that an instruction may load. -/
def Loads (j : Register) : Instruction → Prop
  | .setByte x _ | .addByte x _ | .random x _ | .readDelay x | .awaitKey x => j = x
  | .arithmetic op x _ => j = x ∨ op.hasFlag = true ∧ j = .flag
  | .draw .. => j = .flag
  | .loadRegisters x => j ≤ x
  | _ => False

/-- The parts that an instruction may write on a machine. -/
def Writes (s : Machine) (i : Instruction) : Part → Prop
  | .cell address =>
    ((∃ x, i = .storeDecimal x) ∧ ∃ k ≤ 2, address % 4096 = (s.index.toNat + k) % 4096) ∨
      ∃ x, i = .storeRegisters x ∧ ∃ k ≤ x.val, address % 4096 = (s.index.toNat + k) % 4096
  | .display => i = .clear ∨ ∃ x y height, i = .draw x y height
  | .stack => (∃ target, i = .call target) ∨ i = .ret
  | .randomKey => ∃ x mask, i = .random x mask
  | .delayTimer => ∃ x, i = .setDelay x
  | .soundTimer => ∃ x, i = .setSound x
  | .index => (∃ target, i = .setIndex target) ∨ (∃ x, i = .addIndex x) ∨ ∃ x, i = .glyph x
  | .lastKey | .awaitingKey => ∃ x, i = .awaitKey x
  | .keypad => False
  | .register j => i.Loads j

/-- Whether an instruction stores in memory. -/
def stores : Instruction → Bool
  | .storeDecimal _ | .storeRegisters _ => true
  | _ => false

end Instruction

/-! ## Memory -/

/-- A cell that is none of those that consecutive bytes are stored in keeps what it held. -/
lemma Memory.read_writeBytes_of_forall_ne (m : Memory) {start address : ℕ} {bytes : List UInt8}
    (hbytes : bytes.length ≤ 4096)
    (h : ∀ k < bytes.length, address % 4096 ≠ (start + k) % 4096) :
    (m.writeBytes start bytes).read address = m.read address := by
  rw [m.read_writeBytes _ _ _ hbytes, List.getElem?_eq_none, Option.getD_none]
  by_contra hdistance
  exact h _ (not_le.mp hdistance) (by omega)

/-! ## Effects of the single families -/

namespace Part

variable {part : Part} {s s' : Machine}

/-- A part that is kept twice is kept. -/
lemma Kept.trans {t : Machine} (h : part.Kept s s') (h' : part.Kept s' t) : part.Kept s t := by
  cases part <;> exact Eq.trans h' h

lemma kept_withPc (s : Machine) (pc : UInt16) : part.Kept s { s with pc } := by
  cases part <;> rfl

lemma kept_withStack (s : Machine) (stack : CallStack) (h : part ≠ .stack) :
    part.Kept s { s with stack } := by
  cases part with
  | stack => exact absurd rfl h
  | _ => rfl

lemma kept_withDisplay (s : Machine) (display : Display) (h : part ≠ .display) :
    part.Kept s { s with display } := by
  cases part with
  | display => exact absurd rfl h
  | _ => rfl

lemma kept_withIndex (s : Machine) (index : UInt16) (h : part ≠ .index) :
    part.Kept s { s with index } := by
  cases part with
  | index => exact absurd rfl h
  | _ => rfl

lemma kept_withRandomKey (s : Machine) (randomKey : RandomKey) (h : part ≠ .randomKey) :
    part.Kept s { s with randomKey } := by
  cases part with
  | randomKey => exact absurd rfl h
  | _ => rfl

lemma kept_withDelayTimer (s : Machine) (delayTimer : UInt8) (h : part ≠ .delayTimer) :
    part.Kept s { s with delayTimer } := by
  cases part with
  | delayTimer => exact absurd rfl h
  | _ => rfl

lemma kept_withSoundTimer (s : Machine) (soundTimer : UInt8) (h : part ≠ .soundTimer) :
    part.Kept s { s with soundTimer } := by
  cases part with
  | soundTimer => exact absurd rfl h
  | _ => rfl

lemma kept_withLatch (s : Machine) (lastKey : Option Key) (awaitingKey : Bool)
    (hkey : part ≠ .lastKey) (hwait : part ≠ .awaitingKey) :
    part.Kept s { s with lastKey, awaitingKey } := by
  cases part with
  | lastKey => exact absurd rfl hkey
  | awaitingKey => exact absurd rfl hwait
  | _ => rfl

lemma kept_setReg (s : Machine) {x : Register} (b : UInt8) (h : part ≠ .register x) :
    part.Kept s (s.setReg x b) := by
  cases part with
  | register j =>
    have hj : x ≠ j := fun hx => h (congrArg Part.register hx.symm)
    exact (s.reg_setReg x j b).trans (if_neg hj)
  | _ => rfl

lemma kept_skipIf (s : Machine) (condition : Bool) : part.Kept s (s.skipIf condition) := by
  rw [s.skipIf_eq]
  exact kept_withPc s _

/-- An arithmetic operation writes its first register, and the flag if it has one. -/
lemma kept_arithmetic (s : Machine) {op : ArithmeticOp} {x y : Register}
    (hx : part ≠ .register x) (hflag : op.hasFlag = true → part ≠ .register .flag) :
    part.Kept s (s.arithmetic op x y) := by
  have hfirst := kept_setReg s (op.result (s.reg x) (s.reg y)) hx
  have hnone : op.hasFlag = false → op.flag? (s.reg x) (s.reg y) = none := by
    cases op <;> simp [ArithmeticOp.hasFlag, ArithmeticOp.flag?]
  unfold Machine.arithmetic
  cases hf : op.flag? (s.reg x) (s.reg y) with
  | none => exact hfirst
  | some flag =>
    refine hfirst.trans (kept_setReg _ _ (hflag ?_))
    by_contra hop
    rw [hnone (eq_false_of_ne_true hop)] at hf
    cases hf

lemma kept_drawSprite (s : Machine) (sprite : Sprite) (hdisplay : part ≠ .display)
    (hflag : part ≠ .register .flag) : part.Kept s (s.drawSprite sprite) :=
  (kept_withDisplay s _ hdisplay).trans (kept_setReg _ _ hflag)

lemma kept_awaitKey (s : Machine) {x : Register} (hx : part ≠ .register x)
    (hkey : part ≠ .lastKey) (hwait : part ≠ .awaitingKey) : part.Kept s (s.awaitKey x) := by
  unfold Machine.awaitKey
  split
  · exact (kept_setReg s _ hx).trans (kept_withLatch _ _ _ hkey hwait)
  · exact (kept_withPc s _).trans (kept_withLatch _ _ _ hkey hwait)

/-- Bytes that are stored at the index register reach the cells behind it, one each. -/
lemma kept_storeAtIndex (s : Machine) {bytes : List UInt8} (hbytes : bytes.length ≤ 4096)
    (h : ∀ address, part = .cell address →
      ∀ k < bytes.length, address % 4096 ≠ (s.index.toNat + k) % 4096) :
    part.Kept s (s.storeAtIndex bytes) := by
  cases part with
  | cell address => exact s.memory.read_writeBytes_of_forall_ne hbytes (h address rfl)
  | _ => rfl

lemma kept_loadFromIndex (s : Machine) {x : Register} (h : ∀ j ≤ x, part ≠ .register j) :
    part.Kept s (s.loadFromIndex x) := by
  unfold Machine.loadFromIndex
  cases part with
  | register j =>
    have hj : ¬j ≤ x := fun hle => h j hle rfl
    simp [Kept, Machine.reg, hj]
  | _ => rfl

end Part

/-! ## Instructions -/

/-- **An instruction keeps what it may not write.**

**Proof sketch.** Each effect writes one part after the other, and none of them is one that the
instruction may not write. -/
theorem Instruction.kept_of_run {i : Instruction} {s s' : Machine} {part : Part}
    (h : i.run s = .ok s') (hwrites : ¬i.Writes s part) : part.Kept s s' := by
  have hne : ∀ other, i.Writes s other → part ≠ other := by
    rintro other hother rfl
    exact hwrites hother
  cases i with
  | clear =>
    cases h
    exact Part.kept_withDisplay s _ (hne _ (.inl rfl))
  | ret =>
    cases hp : s.stack.pop? with
    | none => simp only [run, hp, reduceCtorEq] at h
    | some popped =>
      simp only [run, hp, Except.ok.injEq] at h
      rw [← h]
      exact (Part.kept_withStack s popped.2 (hne _ (.inr rfl))).trans (Part.kept_withPc _ popped.1)
  | call target =>
    cases hp : s.stack.push? s.pc with
    | none => simp only [run, hp, reduceCtorEq] at h
    | some stack =>
      simp only [run, hp, Except.ok.injEq] at h
      rw [← h]
      exact (Part.kept_withStack s stack (hne _ (.inl ⟨_, rfl⟩))).trans (Part.kept_withPc _ _)
  | jump | jumpOffset =>
    cases h
    exact Part.kept_withPc s _
  | skipEqByte | skipNeByte | skipEqRegister | skipNeRegister | skipKey | skipNoKey =>
    cases h
    exact Part.kept_skipIf s _
  | setByte x | addByte x | readDelay x =>
    cases h
    exact Part.kept_setReg s _ (hne (.register x) rfl)
  | arithmetic op x y =>
    cases h
    exact Part.kept_arithmetic s (hne (.register x) (.inl rfl))
      fun hop => hne (.register .flag) (.inr ⟨hop, rfl⟩)
  | setIndex =>
    cases h
    exact Part.kept_withIndex s _ (hne _ (.inl ⟨_, rfl⟩))
  | addIndex =>
    cases h
    exact Part.kept_withIndex s _ (hne _ (.inr (.inl ⟨_, rfl⟩)))
  | glyph =>
    cases h
    exact Part.kept_withIndex s _ (hne _ (.inr (.inr ⟨_, rfl⟩)))
  | random x mask =>
    cases h
    exact (Part.kept_setReg s _ (hne (.register x) rfl)).trans
      (Part.kept_withRandomKey _ _ (hne _ ⟨_, _, rfl⟩))
  | draw =>
    cases h
    exact Part.kept_drawSprite s _ (hne _ (.inr ⟨_, _, _, rfl⟩)) (hne (.register .flag) rfl)
  | awaitKey x =>
    cases h
    exact Part.kept_awaitKey s (hne (.register x) rfl) (hne .lastKey ⟨_, rfl⟩)
      (hne .awaitingKey ⟨_, rfl⟩)
  | setDelay =>
    cases h
    exact Part.kept_withDelayTimer s _ (hne _ ⟨_, rfl⟩)
  | setSound =>
    cases h
    exact Part.kept_withSoundTimer s _ (hne _ ⟨_, rfl⟩)
  | storeDecimal x =>
    cases h
    have hlength : (Machine.decimalDigits (s.reg x)).length = 3 := rfl
    refine Part.kept_storeAtIndex s (by omega) ?_
    rintro address rfl k hk heq
    exact hwrites (.inl ⟨⟨x, rfl⟩, k, by omega, heq⟩)
  | storeRegisters x =>
    cases h
    have hlength : (s.registers.toList.take (x.val + 1)).length = x.val + 1 := by simp
    refine Part.kept_storeAtIndex s (by omega) ?_
    rintro address rfl k hk heq
    exact hwrites (.inr ⟨x, rfl, k, by omega, heq⟩)
  | loadRegisters x =>
    cases h
    exact Part.kept_loadFromIndex s fun j hj => hne (.register j) hj

namespace Machine

/-! ## Cycles -/

/-- A cycle that does not keep a part performs an instruction that may write it. -/
lemma kept_or_exists_writes (s : Machine) (part : Part) :
    part.Kept s s.step ∨ ∃ i, s.Executes i ∧ s.step.fault = none ∧ i.Writes s part := by
  rcases s.step_cases with ⟨r, -, hstep⟩ | ⟨trap, -, -, hstep⟩ | ⟨i, s', hi, hrun, hstep⟩
  · rw [hstep]
    exact .inl (by cases part <;> rfl)
  · rw [hstep]
    exact .inl (by cases part <;> rfl)
  · -- the program counter has moved on, but no instruction owns anything because of it
    by_cases hwrites : i.Writes s.advance part
    · refine .inr ⟨i, hi, ?_, by cases part <;> exact hwrites⟩
      rw [hstep, fault_of_run hrun]
      exact hi.healthy
    · rw [hstep]
      exact .inl ((Part.kept_withPc s _).trans (i.kept_of_run hrun hwrites))

/-- A cycle that performs no instruction that stores keeps the memory. -/
lemma memory_step {s : Machine} (h : ∀ i, s.performed? = some i → i.stores = false) :
    s.step.memory = s.memory := by
  refine Memory.ext_read fun address _ => ?_
  refine (s.kept_or_exists_writes (.cell address)).resolve_right ?_
  rintro ⟨i, hi, hgoes, ⟨⟨x, rfl⟩, -⟩ | ⟨x, rfl, -⟩⟩
  all_goals cases h _ (performed?_eq_some_iff.mpr ⟨hi, hgoes⟩)

/-! ## Runs -/

/-- **A run that performs no instruction that stores keeps the memory**, the font and the program
included, whatever the surroundings do meanwhile. -/
theorem memory_after {s : Machine} {actions : List Action}
    (h : ∀ i ∈ s.performed actions, i.stores = false) :
    (s.after actions).memory = s.memory := by
  induction actions generalizing s with
  | nil => rfl
  | cons action actions ih =>
    cases action with
    | step =>
      have hfirst : s.step.memory = s.memory :=
        memory_step fun i hi => h i (List.mem_append_left _ (Option.mem_toList.mpr hi))
      exact (ih fun i hi => h i (List.mem_append_right _ hi)).trans hfirst
    | _ =>
      refine (ih h).trans ?_
      rw [s.act_eq_of_ne_step (by simp)]

/-- Cycles and runs of a machine write nothing but what their instructions own. -/
structure KeepsToOwn (s : Machine) : Prop where
  /-- A cycle keeps a part, or it performs an instruction that may write the part. -/
  part : ∀ part : Part, part.Kept s s.step ∨
    ∃ i, s.Executes i ∧ s.step.fault = none ∧ i.Writes s part
  /-- A cycle keeps the fault record, or the next word springs a trap and the record is all that the
  cycle writes. -/
  fault : s.step.fault = s.fault ∨ ∃ trap, s.Springs trap ∧ s.step = s.stopOn trap
  /-- A run keeps the memory if it performs no instruction that stores. -/
  memory : ∀ actions, (∀ i ∈ s.performed actions, i.stores = false) →
    (s.after actions).memory = s.memory

/-- **Every machine keeps to what its instructions own**, in each cycle and in runs of any length.

**Proof sketch.** A cycle does what its instruction does, or stops the machine and leaves nothing
but the record, by `step_cases`. Runs follow by induction, since the surroundings own no memory. -/
theorem keepsToOwn (s : Machine) : s.KeepsToOwn where
  part := s.kept_or_exists_writes
  fault := by
    rcases s.step_cases with ⟨r, -, hstep⟩ | ⟨trap, -, htrap, hstep⟩ | ⟨i, s', -, hrun, hstep⟩
    · exact .inl (by rw [hstep])
    · exact .inr ⟨trap, htrap, hstep⟩
    · exact .inl (by rw [hstep, fault_of_run hrun, advance])
  memory _ := memory_after

end Machine

end Chip8
