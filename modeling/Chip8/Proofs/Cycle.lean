import Chip8.Execution
import Chip8.Proofs.Decoding

set_option autoImplicit false

/-!
# One cycle of the machine

What a cycle can do: a stopped machine stays as it is, and a healthy one either performs the
instruction that its next word denotes or stops on a trap. Which of these happens can be told from
the next word and the depth of the call stack, and a trap leaves nothing behind but its record.

## Main definitions

* `Chip8.Machine.Executes` — the next cycle of a machine performs an instruction.
* `Chip8.Machine.Springs` — the next cycle of a machine stops on a trap.
* `Chip8.Machine.faultCode`, `Chip8.Machine.faultOpcode`, `Chip8.Machine.faultPc` — the fault record
  of a machine in numbers.

## Main results

* `Chip8.Machine.step_cases` — all that a cycle can do.
* `Chip8.Machine.step_faults_iff` — when a cycle stops the machine, and what is left of it then.
-/

namespace Chip8

/-! ## Full and empty stacks -/

namespace CallStack

/-- A push fails exactly on a full stack. -/
lemma push?_eq_none_iff (s : CallStack) (address : UInt16) :
    s.push? address = none ↔ s.depth = 16 := by
  have := s.depth_le
  unfold push?
  split <;> simp <;> omega

/-- A pop fails exactly on an empty stack. -/
lemma pop?_eq_none_iff (s : CallStack) : s.pop? = none ↔ s.depth = 0 := by
  unfold pop?
  split <;> simp_all

end CallStack

namespace Memory

/-- The word at an address, its high byte first. -/
lemma toNat_readWord (m : Memory) (a : ℕ) :
    (m.readWord a).toNat = 256 * (m.read a).toNat + (m.read (a + 1)).toNat := by
  have hhigh := (m.read a).toNat_lt
  have hlow := (m.read (a + 1)).toNat_lt
  rw [readWord, UInt16.toNat_ofNat', Nat.mod_eq_of_lt (by omega)]

end Memory

/-! ## Traps of instructions -/

namespace Instruction

/-- An instruction traps only where a call finds the stack full or a return finds it empty. -/
lemma run_eq_error_iff {i : Instruction} {s : Machine} {trap : Trap} :
    i.run s = .error trap ↔
      trap = .stackOverflow ∧ (∃ target, i = .call target) ∧ s.stack.depth = 16 ∨
      trap = .stackUnderflow ∧ i = .ret ∧ s.stack.depth = 0 := by
  cases i with
  | call target =>
    rw [← CallStack.push?_eq_none_iff s.stack s.pc]
    cases hp : s.stack.push? s.pc <;> simp [run, hp, eq_comm]
  | ret =>
    rw [← CallStack.pop?_eq_none_iff]
    cases hp : s.stack.pop? <;> simp [run, hp, eq_comm]
  | _ => simp [run]

end Instruction

namespace Machine

/-! ## What instructions leave alone -/

/-- The keys, the latch with its wait, and the fault record are the same in two machines. -/
structure SameControls (s s' : Machine) : Prop where
  /-- The same keys are held. -/
  keypad : s'.keypad = s.keypad
  /-- The same key was pressed last. -/
  lastKey : s'.lastKey = s.lastKey
  /-- Both machines wait for a key, or none does. -/
  awaitingKey : s'.awaitingKey = s.awaitingKey
  /-- The same fault is on record. -/
  fault : s'.fault = s.fault

/-- A skip writes the program counter only. -/
lemma skipIf_eq (s : Machine) (condition : Bool) :
    s.skipIf condition = { s with pc := (s.skipIf condition).pc } := by
  cases condition <;> rfl

/-- An arithmetic operation writes the registers only. -/
lemma arithmetic_eq (s : Machine) (op : ArithmeticOp) (x y : Register) :
    s.arithmetic op x y = { s with registers := (s.arithmetic op x y).registers } := by
  unfold arithmetic
  cases op.flag? (s.reg x) (s.reg y) <;> rfl

/-- An instruction that is no call, no return and no wait for a key leaves the controls and the
stack alone. -/
lemma sameControls_and_stack_of_run {i : Instruction} {s s' : Machine} (h : i.run s = .ok s')
    (hcall : ∀ target, i ≠ .call target) (hret : i ≠ .ret) (hwait : ∀ x, i ≠ .awaitKey x) :
    SameControls s s' ∧ s'.stack = s.stack := by
  cases i with
  | call target => exact absurd rfl (hcall target)
  | ret => exact absurd rfl hret
  | awaitKey x => exact absurd rfl (hwait x)
  | arithmetic op x y =>
    cases h
    rw [arithmetic_eq]
    exact ⟨⟨rfl, rfl, rfl, rfl⟩, rfl⟩
  | skipEqByte | skipNeByte | skipEqRegister | skipNeRegister | skipKey | skipNoKey =>
    cases h
    rw [skipIf_eq]
    exact ⟨⟨rfl, rfl, rfl, rfl⟩, rfl⟩
  | _ =>
    cases h
    -- `rfl` would compare the whole machines first, screens and registers included
    refine ⟨⟨?_, ?_, ?_, ?_⟩, ?_⟩ <;>
      dsimp only [jumpTo, setReg, setFlag, drawSprite, storeAtIndex, loadFromIndex]

/-- Only a wait for a key touches the latch, and no instruction touches the keys or the fault
record. -/
lemma sameControls_of_run {i : Instruction} {s s' : Machine} (h : i.run s = .ok s')
    (hi : ∀ x, i ≠ .awaitKey x) : SameControls s s' := by
  cases i with
  | call target =>
    cases hp : s.stack.push? s.pc <;> simp only [Instruction.run, hp, reduceCtorEq] at h
    cases h
    constructor <;> rfl
  | ret =>
    cases hp : s.stack.pop? <;> simp only [Instruction.run, hp, reduceCtorEq] at h
    cases h
    constructor <;> rfl
  | _ => exact (sameControls_and_stack_of_run h (by simp) (by simp) hi).1

/-- Only calls and returns touch the stack. -/
lemma stack_of_run {i : Instruction} {s s' : Machine} (h : i.run s = .ok s')
    (hcall : ∀ target, i ≠ .call target) (hret : i ≠ .ret) : s'.stack = s.stack := by
  cases i with
  | awaitKey x =>
    cases h
    unfold awaitKey
    split <;> rfl
  | _ => exact (sameControls_and_stack_of_run h hcall hret (by simp)).2

/-- A wait that finds a key latched since it began takes the key and ends. -/
lemma awaitKey_of_latched {s : Machine} {k : Key} (x : Register) (ha : s.awaitingKey = true)
    (hk : s.lastKey = some k) :
    s.awaitKey x =
      { s.setReg x (UInt8.ofNat k.val) with lastKey := none, awaitingKey := false } := by
  simp only [awaitKey, ha, hk]

/-- A wait that begins, or finds no key, moves the program counter back and clears the latch. -/
lemma awaitKey_of_unlatched {s : Machine} (x : Register)
    (h : s.awaitingKey = false ∨ s.lastKey = none) :
    s.awaitKey x = { s with pc := s.pc - 2, lastKey := none, awaitingKey := true } := by
  unfold awaitKey
  split
  · simp_all
  · rfl

/-- No instruction touches the fault record. -/
lemma fault_of_run {i : Instruction} {s s' : Machine} (h : i.run s = .ok s') :
    s'.fault = s.fault := by
  by_cases hi : ∃ x, i = .awaitKey x
  · obtain ⟨x, rfl⟩ := hi
    cases h
    unfold awaitKey
    split <;> rfl
  · exact (sameControls_of_run h fun x hx => hi ⟨x, hx⟩).fault

/-! ## The next word -/

/-- The next cycle performs an instruction: the machine has not stopped, and its next word denotes
the instruction. -/
structure Executes (s : Machine) (i : Instruction) : Prop where
  /-- The machine has not stopped. -/
  healthy : s.fault = none
  /-- The next word is the word of the instruction. -/
  word : s.nextWord.toNat = i.word

/-- The next word of a machine springs a trap: it is outside the opcode table, or a call while all
slots of the stack are in use, or a return while none is. -/
def Springs (s : Machine) : Trap → Prop
  | .undefinedOpcode => Opcode.isDefined s.nextWord.toNat = false
  | .stackOverflow => s.nextWord.toNat / 0x1000 = 0x2 ∧ s.stack.depth = 16
  | .stackUnderflow => s.nextWord.toNat = 0x00EE ∧ s.stack.depth = 0

instance (s : Machine) : DecidablePred s.Springs
  | .undefinedOpcode => inferInstanceAs (Decidable (_ = _))
  | .stackOverflow => inferInstanceAs (Decidable (_ ∧ _))
  | .stackUnderflow => inferInstanceAs (Decidable (_ ∧ _))

/-- Which traps the next word springs depends on the word and the depth of the stack only. -/
lemma Springs.congr {s s' : Machine} {trap : Trap} (h : s.Springs trap)
    (hword : s'.nextWord = s.nextWord) (hdepth : s'.stack.depth = s.stack.depth) :
    s'.Springs trap := by
  cases trap <;> simpa only [Springs, hword, hdepth] using h

/-- The decoder reads the next word as the word of an instruction. -/
lemma decode?_nextWord {s : Machine} {i : Instruction} :
    Instruction.decode? s.nextWord.toNat = some i ↔ s.nextWord.toNat = i.word := by
  rw [Instruction.decode?_eq_some_iff, Opcode.low_toNat]

/-- The calls are the words whose first digit is two. -/
lemma exists_call_iff {w : ℕ} (hw : w < 65536) :
    (∃ target, w = (Instruction.call target).word) ↔ w / 0x1000 = 0x2 := by
  constructor
  · rintro ⟨target, rfl⟩
    exact Instruction.word_div _
  · intro h
    refine ⟨⟨w - 0x2000, by omega⟩, ?_⟩
    simp only [Instruction.word]
    omega

/-- The traps of a machine are those of the attempt to perform its next word.

**Proof sketch.** A word that does not decode is outside the table, and neither a call nor a return.
A word that decodes is in the table, and its instruction traps as `run_eq_error_iff` says. -/
lemma attempt_eq_error_iff {s : Machine} {trap : Trap} :
    s.advance.attempt s.nextWord.toNat = .error trap ↔ s.Springs trap := by
  have htable := Instruction.isSome_decode? s.nextWord.toNat
  have hcall := exists_call_iff s.nextWord.toNat_lt
  unfold attempt
  cases hd : Instruction.decode? s.nextWord.toNat with
  | none =>
    have hnone : ∀ i : Instruction, s.nextWord.toNat ≠ i.word := fun i hi => by
      rw [decode?_nextWord.mpr hi] at hd
      cases hd
    cases trap with
    | undefinedOpcode => simp [Springs, ← htable, hd]
    | stackOverflow =>
      simp only [Springs, ← hcall]
      simp [hnone]
    | stackUnderflow =>
      have := hnone .ret
      simp_all [Springs, Instruction.word]
  | some i =>
    have hword : ∀ j : Instruction, s.nextWord.toNat = j.word ↔ i = j := fun j => by
      rw [decode?_nextWord.mp hd]
      exact Instruction.word_injective.eq_iff
    simp only [Instruction.run_eq_error_iff, advance]
    cases trap with
    | undefinedOpcode => simp [Springs, ← htable, hd]
    | stackOverflow => simp [Springs, ← hcall, hword]
    | stackUnderflow => simp [Springs, ← hword, Instruction.word]

/-- What a cycle does to a machine that has not stopped and springs no trap. -/
lemma attempt_eq_ok_iff {s s' : Machine} :
    s.advance.attempt s.nextWord.toNat = .ok s' ↔
      ∃ i : Instruction, s.nextWord.toNat = i.word ∧ i.run s.advance = .ok s' := by
  unfold attempt
  simp only [← decode?_nextWord]
  cases Instruction.decode? s.nextWord.toNat <;> simp

/-- Executing the word of an instruction performs the instruction. -/
lemma execute_word_of_run {i : Instruction} {s s' : Machine} (h : i.run s = .ok s') :
    s.execute i.word = s' := by
  have hdecode : Instruction.decode? i.word = some i :=
    Instruction.decode?_of_low (Opcode.low_natCast i.word_lt)
  simp only [execute, attempt, hdecode, h]

/-! ## The cycle -/

/-- A machine that has stopped on a trap of its next word: nothing but the record is new. -/
def stopOn (s : Machine) (trap : Trap) : Machine :=
  { s with fault := some { trap, opcode := s.nextWord, pc := s.pc } }

/-- A machine that has stopped stays as it is. -/
lemma step_of_fault {s : Machine} {r : FaultRecord} (h : s.fault = some r) : s.step = s := by
  simp [step, isFaulted, h]

/-- A healthy machine whose next word springs a trap stops on it. -/
lemma step_of_springs {s : Machine} {trap : Trap} (h : s.fault = none) (ht : s.Springs trap) :
    s.step = s.stopOn trap := by
  rw [step, if_neg (by simp [isFaulted, h]), attempt_eq_error_iff.mpr ht, stopOn]

/-- A cycle that performs an instruction. -/
lemma step_of_run {s s' : Machine} {i : Instruction} (h : s.Executes i)
    (hrun : i.run s.advance = .ok s') : s.step = s' := by
  rw [step, if_neg (by simp [isFaulted, h.healthy]), attempt_eq_ok_iff.mpr ⟨i, h.word, hrun⟩]

/-- **All that a cycle can do.** A stopped machine stays as it is; a healthy one stops on a trap of
its next word, or performs the instruction of that word. -/
theorem step_cases (s : Machine) :
    (∃ r, s.fault = some r ∧ s.step = s) ∨
    (∃ trap, s.fault = none ∧ s.Springs trap ∧ s.step = s.stopOn trap) ∨
    (∃ i s', s.Executes i ∧ i.run s.advance = .ok s' ∧ s.step = s') := by
  cases hf : s.fault with
  | some r => exact .inl ⟨r, rfl, step_of_fault hf⟩
  | none =>
    cases ha : s.advance.attempt s.nextWord.toNat with
    | error trap =>
      have ht := attempt_eq_error_iff.mp ha
      exact .inr (.inl ⟨trap, rfl, ht, step_of_springs hf ht⟩)
    | ok s' =>
      obtain ⟨i, hword, hrun⟩ := attempt_eq_ok_iff.mp ha
      exact .inr (.inr ⟨i, s', ⟨hf, hword⟩, hrun, step_of_run ⟨hf, hword⟩ hrun⟩)

/-- A tick reports a fault if its cycle stops the machine, and yields the machine if not. -/
lemma tick_cases (s : Machine) :
    (∃ r, s.step.fault = some r ∧ s.tick = .error r.report) ∨
      (s.step.fault = none ∧ s.tick = .ok s.step) := by
  unfold tick checked
  cases h : s.step.fault with
  | some r => exact .inl ⟨r, rfl, rfl⟩
  | none => exact .inr ⟨rfl, rfl⟩

/-- A machine that runs after a cycle ran before it. -/
lemma fault_eq_none_of_step {s : Machine} (h : s.step.fault = none) : s.fault = none := by
  cases hs : s.fault with
  | none => rfl
  | some r =>
    rw [step_of_fault hs, hs] at h
    cases h

/-- A cycle that stops a machine changes nothing but the record. -/
lemma step_eq_of_stops {s : Machine} {r : FaultRecord} (h : s.fault = none)
    (hr : s.step.fault = some r) : s.step = { s with fault := some r } := by
  rcases s.step_cases with ⟨r', hr', -⟩ | ⟨trap, -, -, hstep⟩ | ⟨i, s', -, hrun, hstep⟩
  · rw [h] at hr'
    cases hr'
  · rw [hstep] at hr ⊢
    cases hr
    rfl
  · rw [hstep, fault_of_run hrun] at hr
    cases hr.symm.trans h

/-! ## Faults -/

/-- The code of the trap that stopped a machine, and zero while it has not stopped. -/
def faultCode (s : Machine) : ℕ :=
  match s.fault with
  | some r => r.trap.code
  | none => 0

/-- The word on which a machine stopped, and zero while it has not stopped. -/
def faultOpcode (s : Machine) : UInt16 :=
  match s.fault with
  | some r => r.opcode
  | none => 0

/-- The program counter at which a machine stopped, and zero while it has not stopped. -/
def faultPc (s : Machine) : UInt16 :=
  match s.fault with
  | some r => r.pc
  | none => 0

/-- The code of a stopped machine is that of its trap. -/
lemma faultCode_eq_iff {s : Machine} {trap : Trap} :
    s.faultCode = trap.code ↔ ∃ r, s.fault = some r ∧ r.trap = trap := by
  have hinj : ∀ t : Trap, t.code = trap.code ↔ t = trap := by
    intro t
    cases t <;> cases trap <;> decide
  have hpos : 0 ≠ trap.code := by cases trap <;> decide
  unfold faultCode
  cases s.fault <;> simp [hinj, hpos]

/-- A healthy machine has a trap on record after a cycle exactly if its next word springs it. -/
lemma springs_iff_step {s : Machine} (h : s.fault = none) (trap : Trap) :
    s.Springs trap ↔ ∃ r, s.step.fault = some r ∧ r.trap = trap := by
  constructor
  · intro ht
    exact ⟨_, congrArg Machine.fault (step_of_springs h ht), rfl⟩
  · rintro ⟨r, hr, rfl⟩
    rcases s.step_cases with ⟨r', hr', -⟩ | ⟨trap, -, ht, hstep⟩ | ⟨i, s', hi, hrun, hstep⟩
    · rw [h] at hr'
      cases hr'
    · rw [hstep] at hr
      cases hr
      exact ht
    · rw [hstep, fault_of_run hrun] at hr
      exact absurd (hr.symm.trans h) (by simp)

/-- **When a cycle stops the machine, and what is left of it then.** A stopped machine stays as it
is. A healthy one stops exactly if its next word springs a trap, the trap is the one on record, and
nothing but the record differs from the machine before the cycle.

**Proof sketch.** By `step_cases`, since no instruction that is performed touches the record. -/
theorem step_faults_iff (s : Machine) :
    if s.isFaulted then s.step = s
    else
      s.nextWord.toNat =
        256 * (s.memory.read s.pc.toNat).toNat + (s.memory.read (s.pc.toNat + 1)).toNat ∧
      (s.step.isFaulted = true ↔ ∃ trap, s.Springs trap) ∧
      ∀ trap, (s.step.faultCode = trap.code ↔ s.Springs trap) ∧
        (s.Springs trap →
          s.step = { s with fault := some { trap, opcode := s.nextWord, pc := s.pc } }) := by
  cases hf : s.fault with
  | some r =>
    rw [if_pos (by simp [isFaulted, hf])]
    exact step_of_fault hf
  | none =>
    rw [if_neg (by simp [isFaulted, hf])]
    refine ⟨s.memory.toNat_readWord _, ?_, fun trap => ⟨?_, fun ht => step_of_springs hf ht⟩⟩
    · simp only [springs_iff_step hf, isFaulted, Option.isSome_iff_exists]
      exact ⟨fun ⟨r, hr⟩ => ⟨r.trap, r, hr, rfl⟩, fun ⟨_, r, hr, _⟩ => ⟨r, hr⟩⟩
    · rw [faultCode_eq_iff, springs_iff_step hf]

end Machine

end Chip8
