import Chip8.Proofs.Cycle

set_option autoImplicit false

/-!
# Surroundings that commute with execution

A period of the timers and a change of the keys can happen before a cycle or after it, and it makes
no difference unless the instruction of the cycle looks at what changes. All of them are influences
of one kind: each maps the timers, the keys and the latch by functions of their own and touches
nothing else. An instruction misses an influence if it neither reads something that the influence
changes nor writes something over it, and a missed influence commutes with the cycle. Cycles that
stop the machine, and cycles of a stopped machine, miss every influence.

## Main definitions

* `Chip8.Influence`, `Chip8.Influence.on` — what the surroundings do to a machine.
* `Chip8.Influence.Misses` — an instruction does not notice an influence.
* `Chip8.Machine.UsesTimers`, `Chip8.Machine.TestsKey`, `Chip8.Machine.AwaitsKey` — the instructions
  that notice something.
* `Chip8.Machine.Commutes` — the surroundings commute with a cycle.

## Main results

* `Chip8.Influence.run_on` — an instruction commutes with an influence that misses it.
* `Chip8.Influence.step_on` — so do cycles.
* `Chip8.Machine.commutes` — periods of the timers, keys that go down or up, and new states of all
  keys commute with every cycle that does not use them.
-/

namespace Chip8

/-! ## Influences -/

/-- What the surroundings do to a machine, without a look at anything else of it. -/
structure Influence where
  /-- What becomes of the timer that programs read. -/
  delayTimer : UInt8 → UInt8
  /-- What becomes of the timer that sounds the buzzer. -/
  soundTimer : UInt8 → UInt8
  /-- What becomes of the held keys. -/
  keypad : Keypad → Keypad
  /-- What becomes of the key pressed last. -/
  lastKey : Option Key → Option Key

namespace Influence

/-- The machine after an influence. -/
def on (f : Influence) (s : Machine) : Machine :=
  { s with
    delayTimer := f.delayTimer s.delayTimer
    soundTimer := f.soundTimer s.soundTimer
    keypad := f.keypad s.keypad
    lastKey := f.lastKey s.lastKey }

/-- A timer that counts down by one, as far as zero. -/
def countDown (timer : UInt8) : UInt8 :=
  if 0 < timer then timer - 1 else timer

/-- A period of the timers. -/
def period : Influence where
  delayTimer := countDown
  soundTimer := countDown
  keypad := id
  lastKey := id

/-- A key that goes down. -/
def keyDown (key : Key) : Influence where
  delayTimer := id
  soundTimer := id
  keypad pad := pad.set key true
  lastKey _ := some key

/-- A key that goes up. -/
def keyUp (key : Key) : Influence where
  delayTimer := id
  soundTimer := id
  keypad pad := pad.set key false
  lastKey := id

/-- New states of all keys. -/
def keys (pad : Keypad) : Influence where
  delayTimer := id
  soundTimer := id
  keypad _ := pad
  lastKey := id

/-- An instruction does not notice an influence on a machine: what it reads is the same before and
after, and what it writes is left as it is written. -/
def Misses (f : Influence) (s : Machine) : Instruction → Prop
  | .readDelay _ => f.delayTimer s.delayTimer = s.delayTimer
  | .setDelay x => f.delayTimer (s.reg x) = s.reg x
  | .setSound x => f.soundTimer (s.reg x) = s.reg x
  | .skipKey x | .skipNoKey x => (f.keypad s.keypad).held (s.keyIn x) = s.keyHeld x
  | .awaitKey _ => f.lastKey s.lastKey = s.lastKey ∧ f.lastKey none = none
  | _ => True

variable (f : Influence) (s : Machine)

/-! ## Instructions -/

lemma reg_on (x : Register) : (f.on s).reg x = s.reg x := rfl

lemma setReg_on (x : Register) (b : UInt8) : (f.on s).setReg x b = f.on (s.setReg x b) := rfl

lemma withRegisters_on (registers : Vector UInt8 16) :
    { f.on s with registers } = f.on { s with registers } := rfl

lemma withDisplay_on (display : Display) : { f.on s with display } = f.on { s with display } := rfl

lemma skipIf_on (condition : Bool) : (f.on s).skipIf condition = f.on (s.skipIf condition) := by
  cases condition <;> rfl

lemma arithmetic_on (op : ArithmeticOp) (x y : Register) :
    (f.on s).arithmetic op x y = f.on (s.arithmetic op x y) := by
  unfold Machine.arithmetic
  simp only [reg_on, setReg_on]
  cases op.flag? (s.reg x) (s.reg y) with
  | none => rfl
  | some flag => exact f.setReg_on _ _ _

lemma drawSprite_on (sprite : Sprite) :
    (f.on s).drawSprite sprite = f.on (s.drawSprite sprite) := by
  have hdisplay : (f.on s).display = s.display := rfl
  rw [Machine.drawSprite, hdisplay, withDisplay_on]
  exact f.setReg_on _ _ _

lemma loadFromIndex_on (x : Register) :
    (f.on s).loadFromIndex x = f.on (s.loadFromIndex x) := by
  have hread : ∀ k, (f.on s).memory.read ((f.on s).index.toNat + k) =
      s.memory.read (s.index.toNat + k) := fun _ => rfl
  simp only [Machine.loadFromIndex, reg_on, hread]
  exact f.withRegisters_on s _

/-- A wait for a key commutes with what leaves the latch alone. -/
lemma awaitKey_on {x : Register} (h : f.Misses s (.awaitKey x)) :
    (f.on s).awaitKey x = f.on (s.awaitKey x) := by
  obtain ⟨hlatch, hnone⟩ := h
  have hwait : (f.on s).awaitingKey = s.awaitingKey := rfl
  have hkey : (f.on s).lastKey = s.lastKey := hlatch
  unfold Machine.awaitKey
  rw [hwait, hkey]
  split
  · simp only [on, hnone]
    rfl
  · simp only [on, hnone]

/-- **An instruction commutes with an influence that misses it.**

**Proof sketch.** Most instructions neither read nor write what an influence changes. The others
read the same or write what is left as it is. -/
theorem run_on {i : Instruction} (h : f.Misses s i) : i.run (f.on s) = (i.run s).map f.on := by
  cases i with
  | ret => cases hp : s.stack.pop? <;> simp only [Instruction.run, on, hp] <;> rfl
  | call => cases hp : s.stack.push? s.pc <;> simp only [Instruction.run, on, hp] <;> rfl
  | skipEqByte | skipNeByte | skipEqRegister | skipNeRegister =>
    exact congrArg Except.ok (f.skipIf_on s _)
  | skipKey x =>
    have hheld : (f.on s).keyHeld x = s.keyHeld x := h
    simp only [Instruction.run, hheld, skipIf_on]
    rfl
  | skipNoKey x =>
    have hheld : (f.on s).keyHeld x = s.keyHeld x := h
    simp only [Instruction.run, hheld, skipIf_on]
    rfl
  | arithmetic op x y => exact congrArg Except.ok (f.arithmetic_on s op x y)
  | readDelay x =>
    have htimer : (f.on s).delayTimer = s.delayTimer := h
    simp only [Instruction.run, htimer]
    rfl
  | setDelay x =>
    have htimer : f.delayTimer (s.reg x) = s.reg x := h
    simp only [Instruction.run, Except.map, on, htimer]
    rfl
  | setSound x =>
    have htimer : f.soundTimer (s.reg x) = s.reg x := h
    simp only [Instruction.run, Except.map, on, htimer]
    rfl
  | awaitKey x => exact congrArg Except.ok (f.awaitKey_on s h)
  | draw => exact congrArg Except.ok (f.drawSprite_on s _)
  | loadRegisters x => exact congrArg Except.ok (f.loadFromIndex_on s x)
  | _ => rfl

/-! ## Cycles -/

/-- An influence changes neither the fault record nor what the next cycle executes. -/
lemma executes_on {i : Instruction} (h : s.Executes i) : (f.on s).Executes i :=
  ⟨h.healthy, h.word⟩

/-- **A cycle commutes with an influence that misses its instruction.** A cycle that performs none,
since the machine has stopped or stops now, commutes with every influence.

**Proof sketch.** By `step_cases`. What a machine executes or traps on is the same before and after
an influence. -/
theorem step_on (h : ∀ i, s.Executes i → f.Misses s i) : (f.on s).step = f.on s.step := by
  rcases s.step_cases with ⟨r, hr, hstep⟩ | ⟨trap, hf, ht, hstep⟩ | ⟨i, s', hi, hrun, hstep⟩
  · rw [hstep, Machine.step_of_fault (s := f.on s) hr]
  · rw [hstep, Machine.step_of_springs (s := f.on s) hf (ht.congr rfl rfl)]
    rfl
  · -- moving the program counter on is not noticed by any influence
    have hmisses : f.Misses s.advance i := by
      have := h i hi
      cases i <;> exact this
    have hrun' : i.run (f.on s).advance = .ok (f.on s') := by
      rw [show (f.on s).advance = f.on s.advance from rfl, f.run_on s.advance hmisses, hrun]
      rfl
    rw [hstep, Machine.step_of_run (f.executes_on s hi) hrun']

end Influence

namespace Machine

/-! ## The operations of the surroundings -/

/-- The next cycle reads or sets a timer. -/
def UsesTimers (s : Machine) : Prop :=
  ∃ x, s.Executes (.readDelay x) ∨ s.Executes (.setDelay x) ∨ s.Executes (.setSound x)

/-- The next cycle asks whether a key is held. -/
def TestsKey (s : Machine) (key : Key) : Prop :=
  ∃ x, s.keyIn x = key ∧ (s.Executes (.skipKey x) ∨ s.Executes (.skipNoKey x))

/-- The next cycle begins a wait for a key, or goes on with one. -/
def AwaitsKey (s : Machine) : Prop :=
  ∃ x, s.Executes (.awaitKey x)

/-- What the surroundings do to a machine can happen before its next cycle or after it. -/
structure Commutes (s : Machine) : Prop where
  /-- The timers can be counted down at any time, unless the cycle uses them. -/
  decrementTimers : ¬s.UsesTimers → s.step.decrementTimers = s.decrementTimers.step
  /-- A key can go up at any time, unless the cycle asks for it. -/
  release : ∀ key, ¬s.TestsKey key → s.step.release key = (s.release key).step
  /-- A key can go down at any time, unless the cycle asks for it or waits for any key. -/
  press : ∀ key, ¬s.TestsKey key → ¬s.AwaitsKey → s.step.press key = (s.press key).step
  /-- All keys can be set at any time, unless the cycle asks for one of them. -/
  setKeypad : ∀ pad, (∀ key, ¬s.TestsKey key) → s.step.setKeypad pad = (s.setKeypad pad).step

/-- A cycle that does not use the timers misses a period of them. -/
lemma misses_period {s : Machine} (h : ¬s.UsesTimers) {i : Instruction} (hi : s.Executes i) :
    Influence.period.Misses s i := by
  cases i with
  | readDelay x => exact absurd ⟨x, .inl hi⟩ h
  | setDelay x => exact absurd ⟨x, .inr (.inl hi)⟩ h
  | setSound x => exact absurd ⟨x, .inr (.inr hi)⟩ h
  | skipKey | skipNoKey => rfl
  | awaitKey => exact ⟨rfl, rfl⟩
  | _ => trivial

/-- A key that the next cycle asks for is not one that it does not ask for. -/
lemma held_set_of_not_testsKey {s : Machine} {key : Key} (h : ¬s.TestsKey key) {x : Register}
    (hi : s.Executes (.skipKey x) ∨ s.Executes (.skipNoKey x)) (isHeld : Bool) :
    (s.keypad.set key isHeld).held (s.keyIn x) = s.keyHeld x := by
  rw [Keypad.held_set, if_neg fun hkey => h ⟨x, hkey.symm, hi⟩, keyHeld]

/-- A cycle that does not ask for a key misses it going up. -/
lemma misses_keyUp {s : Machine} {key : Key} (h : ¬s.TestsKey key) {i : Instruction}
    (hi : s.Executes i) : (Influence.keyUp key).Misses s i := by
  cases i with
  | skipKey x => exact held_set_of_not_testsKey h (.inl hi) false
  | skipNoKey x => exact held_set_of_not_testsKey h (.inr hi) false
  | readDelay | setDelay | setSound => rfl
  | awaitKey => exact ⟨rfl, rfl⟩
  | _ => trivial

/-- A cycle that neither asks for a key nor waits for one misses it going down. -/
lemma misses_keyDown {s : Machine} {key : Key} (h : ¬s.TestsKey key) (hwait : ¬s.AwaitsKey)
    {i : Instruction} (hi : s.Executes i) : (Influence.keyDown key).Misses s i := by
  cases i with
  | skipKey x => exact held_set_of_not_testsKey h (.inl hi) true
  | skipNoKey x => exact held_set_of_not_testsKey h (.inr hi) true
  | readDelay | setDelay | setSound => rfl
  | awaitKey x => exact absurd ⟨x, hi⟩ hwait
  | _ => trivial

/-- A cycle that asks for no key misses new states of all keys. -/
lemma misses_keys {s : Machine} (h : ∀ key, ¬s.TestsKey key) (pad : Keypad) {i : Instruction}
    (hi : s.Executes i) : (Influence.keys pad).Misses s i := by
  cases i with
  | skipKey x => exact absurd ⟨x, rfl, .inl hi⟩ (h (s.keyIn x))
  | skipNoKey x => exact absurd ⟨x, rfl, .inr hi⟩ (h (s.keyIn x))
  | readDelay | setDelay | setSound => rfl
  | awaitKey => exact ⟨rfl, rfl⟩
  | _ => trivial

/-- **What the surroundings do commutes with every cycle that does not use it**, on all fields of
the machine, and also where the cycle stops the machine or the machine has stopped before. -/
theorem commutes (s : Machine) : s.Commutes where
  decrementTimers h := (Influence.period.step_on s fun _ => misses_period h).symm
  release key h := ((Influence.keyUp key).step_on s fun _ => misses_keyUp h).symm
  press key h hwait := ((Influence.keyDown key).step_on s fun _ => misses_keyDown h hwait).symm
  setKeypad pad h := ((Influence.keys pad).step_on s fun _ => misses_keys h pad).symm

end Machine

end Chip8
