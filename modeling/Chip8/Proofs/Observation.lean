import Chip8.Proofs.Run

set_option autoImplicit false

/-!
# What programs can observe

The program counter and the index register are wider than an address, a program can set the sound
timer but not read it, and a call stack keeps slots that are not in use. Nothing of this shows: two
machines that differ there only stay so, and agree in everything else, whatever they execute and
whatever is done to both of them. Each instruction reads memory at addresses that count modulo 4096,
and what it leaves in a wide register is the same address again.

## Main definitions

* `Chip8.SameAddress` — two words are the same address of memory.
* `Chip8.Machine.Alike` — two machines differ only in what no program can observe.

## Main results

* `Chip8.Machine.Alike.run` — an instruction does the same to machines that are alike.
* `Chip8.Machine.Alike.step` — a cycle keeps machines alike.
* `Chip8.Machine.alike_of_run` — machines that are alike are so after every run.
-/

namespace Chip8

/-! ## Addresses -/

/-- Two words are the same address of memory. -/
def SameAddress (a b : UInt16) : Prop :=
  b.toNat % 4096 = a.toNat % 4096

instance (a b : UInt16) : Decidable (SameAddress a b) :=
  inferInstanceAs (Decidable (_ = _))

namespace SameAddress

variable {a b : UInt16}

/-- An address remains the same if both words move on, also past the end of memory or of the words.
-/
lemma add (h : SameAddress a b) (c : UInt16) : SameAddress (a + c) (b + c) := by
  unfold SameAddress at h ⊢
  rw [UInt16.toNat_add, UInt16.toNat_add]
  omega

lemma sub (h : SameAddress a b) (c : UInt16) : SameAddress (a - c) (b - c) := by
  rw [UInt16.sub_eq_add_neg, UInt16.sub_eq_add_neg]
  exact h.add (-c)

/-- The low twelve bits are the address. -/
lemma mod_eq (h : SameAddress a b) : b % 4096 = a % 4096 := by
  apply UInt16.toNat.inj
  rw [UInt16.toNat_mod, UInt16.toNat_mod]
  exact h

end SameAddress

namespace Memory

variable (m : Memory) {a b : ℕ}

lemma read_congr (h : b % 4096 = a % 4096) : m.read b = m.read a := by
  rw [← read_mod, h, read_mod]

lemma readWord_congr (h : b % 4096 = a % 4096) : m.readWord b = m.readWord a := by
  have hnext : (b + 1) % 4096 = (a + 1) % 4096 := by omega
  rw [readWord, readWord, m.read_congr h, m.read_congr hnext]

lemma writeBytes_congr (h : b % 4096 = a % 4096) (bytes : List UInt8) :
    m.writeBytes b bytes = m.writeBytes a bytes := by
  induction bytes generalizing m a b with
  | nil => rfl
  | cons byte bytes ih =>
    have hwrite : m.write b byte = m.write a byte := by
      simp only [write, h]
    rw [writeBytes, writeBytes, hwrite, ih _ (show (b + 1) % 4096 = (a + 1) % 4096 by omega)]

end Memory

/-- A sprite covers the same pixels as one whose rows begin at the same address. -/
lemma Sprite.covers_congr (sprite : Sprite) {start : ℕ} (h : start % 4096 = sprite.start % 4096) :
    { sprite with start }.covers = sprite.covers := by
  have hbit : ∀ column row, { sprite with start }.bit column row = sprite.bit column row := by
    intro column row
    have hrow : (start + row) % 4096 = (sprite.start + row) % 4096 := by omega
    simp only [bit, sprite.memory.read_congr hrow]
  funext x y
  simp only [covers, hbit]

/-! ## Machines that are alike -/

/-- Two records tell of the same fault at the same address. -/
structure FaultRecord.Alike (r r' : FaultRecord) : Prop where
  /-- The trap is the same. -/
  trap : r'.trap = r.trap
  /-- The word is the same. -/
  opcode : r'.opcode = r.opcode
  /-- The program counters are the same address. -/
  pc : SameAddress r.pc r'.pc

namespace Machine

/-- Two machines differ only in what no program can observe: the high bits of the program counter,
of the index register and of the program counter on record, the sound timer, and the slots of the
stack that are not in use. -/
structure Alike (s s' : Machine) : Prop where
  /-- The state of the random generator is the same. -/
  randomKey : s'.randomKey = s.randomKey
  /-- The memory is the same. -/
  memory : s'.memory = s.memory
  /-- The program counters are the same address. -/
  pc : SameAddress s.pc s'.pc
  /-- The screen is the same. -/
  display : s'.display = s.display
  /-- As many slots of the stack are in use, and they hold the same return addresses. -/
  stack : s'.stack.toList = s.stack.toList
  /-- The timer that programs read is the same. -/
  delayTimer : s'.delayTimer = s.delayTimer
  /-- The same keys are held. -/
  keypad : s'.keypad = s.keypad
  /-- The same key was pressed last. -/
  lastKey : s'.lastKey = s.lastKey
  /-- Both wait for a key, or none does. -/
  awaitingKey : s'.awaitingKey = s.awaitingKey
  /-- The general-purpose registers are the same. -/
  registers : s'.registers = s.registers
  /-- The index registers are the same address. -/
  index : SameAddress s.index s'.index
  /-- Both run, or the faults that stopped them are alike. -/
  fault : Option.Rel FaultRecord.Alike s.fault s'.fault

namespace Alike

variable {s s' : Machine}

/-! ### What instructions read -/

lemma reg_eq (h : s.Alike s') (x : Register) : s'.reg x = s.reg x := by
  rw [reg, h.registers, reg]

lemma keyHeld_eq (h : s.Alike s') (x : Register) : s'.keyHeld x = s.keyHeld x := by
  simp only [keyHeld, keyIn, h.reg_eq, h.keypad]

lemma depth_eq (h : s.Alike s') : s'.stack.depth = s.stack.depth := by
  rw [← CallStack.length_toList, h.stack, CallStack.length_toList]

lemma nextWord_eq (h : s.Alike s') : s'.nextWord = s.nextWord := by
  rw [nextWord, h.memory, s.memory.readWord_congr h.pc, nextWord]

/-! ### What instructions write -/

lemma withRegisters (h : s.Alike s') (registers : Vector UInt8 16) :
    { s with registers }.Alike { s' with registers } :=
  { h with registers := rfl }

lemma withDisplay (h : s.Alike s') (display : Display) :
    { s with display }.Alike { s' with display } :=
  { h with display := rfl }

lemma withMemory (h : s.Alike s') (memory : Memory) : { s with memory }.Alike { s' with memory } :=
  { h with memory := rfl }

lemma withStack (h : s.Alike s') {stack stack' : CallStack}
    (hstack : stack'.toList = stack.toList) :
    { s with stack }.Alike { s' with stack := stack' } :=
  { h with stack := hstack }

lemma withPc (h : s.Alike s') {pc pc' : UInt16} (hpc : SameAddress pc pc') :
    { s with pc }.Alike { s' with pc := pc' } :=
  { h with pc := hpc }

lemma withIndex (h : s.Alike s') {index index' : UInt16} (hindex : SameAddress index index') :
    { s with index }.Alike { s' with index := index' } :=
  { h with index := hindex }

lemma setReg (h : s.Alike s') (x : Register) (b : UInt8) :
    (s.setReg x b).Alike (s'.setReg x b) := by
  rw [Machine.setReg, Machine.setReg, h.registers]
  exact h.withRegisters _

lemma skipIf (h : s.Alike s') (condition : Bool) :
    (s.skipIf condition).Alike (s'.skipIf condition) := by
  cases condition with
  | false => exact h
  | true => exact h.withPc (h.pc.add 2)

lemma jumpTo (h : s.Alike s') (target : ℕ) : (s.jumpTo target).Alike (s'.jumpTo target) :=
  h.withPc rfl

lemma advance (h : s.Alike s') : s.advance.Alike s'.advance :=
  h.withPc (h.pc.add 2)

lemma arithmetic (h : s.Alike s') (op : ArithmeticOp) (x y : Register) :
    (s.arithmetic op x y).Alike (s'.arithmetic op x y) := by
  unfold Machine.arithmetic
  rw [h.reg_eq, h.reg_eq]
  cases op.flag? (s.reg x) (s.reg y) with
  | none => exact h.setReg x _
  | some flag => exact (h.setReg x _).setReg .flag _

lemma drawSprite (h : s.Alike s') (x y : Register) (height : ℕ) :
    (s.drawSprite (s.sprite x y height)).Alike (s'.drawSprite (s'.sprite x y height)) := by
  have hcovers : (s'.sprite x y height).covers = (s.sprite x y height).covers := by
    rw [← (s.sprite x y height).covers_congr (show s'.index.toNat % 4096 = _ from h.index)]
    simp only [sprite, h.memory, h.reg_eq]
  unfold Machine.drawSprite Display.draw Display.collides setFlag
  rw [hcovers, h.display]
  exact (h.withDisplay _).setReg .flag _

lemma awaitKey (h : s.Alike s') (x : Register) : (s.awaitKey x).Alike (s'.awaitKey x) := by
  unfold Machine.awaitKey
  rw [h.awaitingKey, h.lastKey]
  split
  · exact { h.setReg x _ with lastKey := rfl, awaitingKey := rfl }
  · exact { h with pc := h.pc.sub 2, lastKey := rfl, awaitingKey := rfl }

lemma storeAtIndex (h : s.Alike s') (bytes : List UInt8) :
    (s.storeAtIndex bytes).Alike (s'.storeAtIndex bytes) := by
  unfold Machine.storeAtIndex
  rw [h.memory, s.memory.writeBytes_congr h.index]
  exact h.withMemory _

lemma loadFromIndex (h : s.Alike s') (x : Register) :
    (s.loadFromIndex x).Alike (s'.loadFromIndex x) := by
  have hread : ∀ k, s'.memory.read (s'.index.toNat + k) = s.memory.read (s.index.toNat + k) := by
    intro k
    have hindex : s'.index.toNat % 4096 = s.index.toNat % 4096 := h.index
    rw [h.memory, s.memory.read_congr]
    omega
  simp only [Machine.loadFromIndex, hread, h.reg_eq]
  exact h.withRegisters _

/-! ### Instructions -/

/-- A call that finds room pushes the same return address in both machines. -/
lemma call (h : s.Alike s') {t : Machine} {target : Fin 4096}
    (hrun : (Instruction.call target).run s = .ok t) :
    ∃ t', (Instruction.call target).run s' = .ok t' ∧ t.Alike t' := by
  cases hp : s.stack.push? s.pc with
  | none => simp only [Instruction.run, hp, reduceCtorEq] at hrun
  | some stack =>
    simp only [Instruction.run, hp, Except.ok.injEq] at hrun
    have hroom : s'.stack.push? s'.pc ≠ none := by
      rw [ne_eq, CallStack.push?_eq_none_iff, h.depth_eq, ← CallStack.push?_eq_none_iff, hp]
      exact Option.some_ne_none stack
    obtain ⟨stack', hp'⟩ := Option.ne_none_iff_exists'.mp hroom
    have hstack : stack'.toList = stack.toList := by
      rw [CallStack.toList_push hp', CallStack.toList_push hp, h.stack, h.pc.mod_eq]
    refine ⟨{ s' with stack := stack' }.jumpTo target.val, by simp only [Instruction.run, hp'], ?_⟩
    rw [← hrun]
    exact (h.withStack hstack).jumpTo _

/-- A return that finds an address takes the same one in both machines. -/
lemma ret (h : s.Alike s') {t : Machine} (hrun : Instruction.ret.run s = .ok t) :
    ∃ t', Instruction.ret.run s' = .ok t' ∧ t.Alike t' := by
  cases hp : s.stack.pop? with
  | none => simp only [Instruction.run, hp, reduceCtorEq] at hrun
  | some popped =>
    simp only [Instruction.run, hp, Except.ok.injEq] at hrun
    have hused : s'.stack.pop? ≠ none := by
      rw [ne_eq, CallStack.pop?_eq_none_iff, h.depth_eq, ← CallStack.pop?_eq_none_iff, hp]
      exact Option.some_ne_none popped
    obtain ⟨popped', hp'⟩ := Option.ne_none_iff_exists'.mp hused
    have hlists : popped'.2.toList ++ [popped'.1] = popped.2.toList ++ [popped.1] := by
      rw [← CallStack.toList_pop hp', ← CallStack.toList_pop hp, h.stack]
    obtain ⟨hstack, haddress⟩ := List.append_inj' hlists rfl
    rw [List.singleton_inj] at haddress
    refine ⟨{ s' with stack := popped'.2, pc := popped'.1 },
      by simp only [Instruction.run, hp'], ?_⟩
    rw [← hrun, haddress]
    exact (h.withStack hstack).withPc rfl

/-- **An instruction does the same to machines that are alike.** -/
theorem run (h : s.Alike s') {i : Instruction} {t : Machine} (hrun : i.run s = .ok t) :
    ∃ t', i.run s' = .ok t' ∧ t.Alike t' := by
  cases i with
  | call target => exact h.call hrun
  | ret => exact h.ret hrun
  | clear =>
    cases hrun
    exact ⟨_, rfl, h.withDisplay _⟩
  | jump target =>
    cases hrun
    exact ⟨_, rfl, h.jumpTo _⟩
  | jumpOffset target =>
    cases hrun
    exact ⟨_, rfl, by rw [h.reg_eq]; exact h.jumpTo _⟩
  | skipEqByte | skipNeByte | skipEqRegister | skipNeRegister | skipKey | skipNoKey =>
    cases hrun
    exact ⟨_, rfl, by simp only [h.reg_eq, h.keyHeld_eq]; exact h.skipIf _⟩
  | setByte x byte =>
    cases hrun
    exact ⟨_, rfl, h.setReg x byte⟩
  | addByte x byte =>
    cases hrun
    exact ⟨_, rfl, by rw [h.reg_eq]; exact h.setReg x _⟩
  | readDelay x =>
    cases hrun
    exact ⟨_, rfl, by rw [h.delayTimer]; exact h.setReg x _⟩
  | arithmetic op x y =>
    cases hrun
    exact ⟨_, rfl, h.arithmetic op x y⟩
  | setIndex target =>
    cases hrun
    exact ⟨_, rfl, h.withIndex rfl⟩
  | glyph x =>
    cases hrun
    exact ⟨_, rfl, by rw [h.reg_eq]; exact h.withIndex rfl⟩
  | addIndex x =>
    cases hrun
    exact ⟨_, rfl, by rw [h.reg_eq]; exact h.withIndex (h.index.add _)⟩
  | random x mask =>
    cases hrun
    refine ⟨_, rfl, ?_⟩
    rw [h.randomKey]
    exact { h.setReg x _ with randomKey := rfl }
  | draw x y height =>
    cases hrun
    exact ⟨_, rfl, h.drawSprite x y height.val⟩
  | awaitKey x =>
    cases hrun
    exact ⟨_, rfl, h.awaitKey x⟩
  | setDelay x =>
    cases hrun
    exact ⟨_, rfl, { h with delayTimer := h.reg_eq x }⟩
  | setSound x =>
    cases hrun
    exact ⟨_, rfl, { h with }⟩
  | storeDecimal x =>
    cases hrun
    exact ⟨_, rfl, by rw [h.reg_eq]; exact h.storeAtIndex _⟩
  | storeRegisters x =>
    cases hrun
    exact ⟨_, rfl, by rw [h.registers]; exact h.storeAtIndex _⟩
  | loadRegisters x =>
    cases hrun
    exact ⟨_, rfl, h.loadFromIndex x⟩

/-! ### Cycles and runs -/

lemma fault_eq_none (h : s.Alike s') (hs : s.fault = none) : s'.fault = none := by
  have hfault := h.fault
  rw [hs] at hfault
  cases hs' : s'.fault with
  | none => rfl
  | some r =>
    rw [hs'] at hfault
    cases hfault

lemma exists_fault (h : s.Alike s') {r : FaultRecord} (hs : s.fault = some r) :
    ∃ r', s'.fault = some r' := by
  have hfault := h.fault
  rw [hs] at hfault
  cases hs' : s'.fault with
  | none =>
    rw [hs'] at hfault
    cases hfault
  | some r' => exact ⟨r', rfl⟩

lemma faultCode_eq (h : s.Alike s') : s'.faultCode = s.faultCode := by
  have hfault := h.fault
  unfold faultCode
  generalize s.fault = fault, s'.fault = fault' at hfault
  cases hfault with
  | none => rfl
  | some hrecord => exact congrArg Trap.code hrecord.trap

lemma faultOpcode_eq (h : s.Alike s') : s'.faultOpcode = s.faultOpcode := by
  have hfault := h.fault
  unfold faultOpcode
  generalize s.fault = fault, s'.fault = fault' at hfault
  cases hfault with
  | none => rfl
  | some hrecord => exact hrecord.opcode

/-- **A cycle keeps machines alike.** Both have stopped, or both stop on the same trap, or both
perform the same instruction. -/
theorem step (h : s.Alike s') : s.step.Alike s'.step := by
  rcases s.step_cases with ⟨r, hr, hstep⟩ | ⟨trap, hs, ht, hstep⟩ | ⟨i, t, hi, hrun, hstep⟩
  · obtain ⟨r', hr'⟩ := h.exists_fault hr
    rw [hstep, step_of_fault hr']
    exact h
  · have ht' : s'.Springs trap := ht.congr h.nextWord_eq h.depth_eq
    rw [hstep, step_of_springs (h.fault_eq_none hs) ht']
    exact { h with fault := .some ⟨rfl, h.nextWord_eq, h.pc⟩ }
  · obtain ⟨t', hrun', halike⟩ := h.advance.run hrun
    have hi' : s'.Executes i := ⟨h.fault_eq_none hi.healthy, by rw [h.nextWord_eq, hi.word]⟩
    rw [hstep, step_of_run hi' hrun']
    exact halike

/-- A request for which something has to be found first is refused by both machines or by none. -/
lemma settle_map (h : s.Alike s') {α : Type} (found : Except Error α) {f f' : α → Machine}
    (hf : ∀ a, (f a).Alike (f' a)) : (s.settle (found.map f)).Alike (s'.settle (found.map f')) := by
  cases found with
  | ok a => exact hf a
  | error _ => exact h

lemma act (h : s.Alike s') (action : Action) : (s.act action).Alike (s'.act action) := by
  cases action with
  | step => exact h.step
  | decrementTimers =>
    refine { h with delayTimer := ?_ }
    show (if 0 < s'.delayTimer then _ else _) = _
    rw [h.delayTimer]
    rfl
  | press key =>
    exact h.settle_map (Key.ofInt key) fun k =>
      { h with keypad := congrArg (Keypad.set · k true) h.keypad, lastKey := rfl }
  | release key =>
    exact h.settle_map (Key.ofInt key) fun k =>
      { h with keypad := congrArg (Keypad.set · k false) h.keypad }
  | setKeypad states => exact h.settle_map states.keypad fun pad => { h with keypad := rfl }

end Alike

/-- **Machines that are alike are so after every run**, whatever cycles, periods of the timers and
keys come in which order. In particular both have stopped on the same trap and the same word, or
none has.

**Proof sketch.** By induction on the run, along both machines: every action keeps them alike. -/
theorem alike_of_run {s s' : Machine} (h : s.Alike s') (actions : List Action) :
    (s.after actions).Alike (s'.after actions) ∧
      (s'.after actions).faultCode = (s.after actions).faultCode ∧
      (s'.after actions).faultOpcode = (s.after actions).faultOpcode := by
  have hafter : (s.after actions).Alike (s'.after actions) := by
    induction actions generalizing s s' with
    | nil => exact h
    | cons action actions ih => exact ih (h.act action)
  exact ⟨hafter, hafter.faultCode_eq, hafter.faultOpcode_eq⟩

/-- A program that begins with the last word of memory and goes on at address zero: it moves the
index register past the end, stores a register there and returns without a call. A machine whose
program counter and index register wrap around does the same as one where they do not, and both stop
on the return. -/
theorem alike_of_run_past_the_end :
    ∃ s s' : Machine, s.Alike s' ∧ s.pc = 0x0FFE ∧ s'.pc = 0xFFFE ∧
      let last := s.after [.step, .decrementTimers, .step, .press 5, .step]
      let last' := s'.after [.step, .decrementTimers, .step, .press 5, .step]
      last.Alike last' ∧ last.faultCode = Trap.stackUnderflow.code ∧ last.memory.read 0x001 = 2 ∧
        last.pc = 0x1002 ∧ last'.pc = 0x0002 ∧ last.index = 0x1001 ∧ last'.index = 0x0001 := by
  let s : Machine := { new ⟨0, 0⟩ with
    memory := Memory.zero.writeBytes 0xFFE [0xF0, 0x1E, 0xF0, 0x55, 0x00, 0xEE]
    pc := 0x0FFE
    registers := Vector.replicate 16 2
    index := 0x0FFF }
  let s' : Machine := { s with
    pc := 0xFFFE
    index := 0xFFFF
    soundTimer := 9
    stack := { CallStack.empty with slots := CallStack.empty.slots.set 3 7 } }
  have h : s.Alike s' := by
    constructor
    case pc | index => decide +kernel
    case fault => exact .none
    all_goals rfl
  refine ⟨s, s', h, rfl, rfl, (alike_of_run h _).1, ?_⟩
  decide +kernel

end Machine

end Chip8
