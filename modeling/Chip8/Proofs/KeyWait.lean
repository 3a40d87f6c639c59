import Chip8.Proofs.Run

set_option autoImplicit false

/-!
# Waiting for a key

A program that waits for a key and the surroundings that press one meet in three places: in the flag
that a wait is on, in the latch of the key pressed last, and in the program counter, which stays on
the waiting instruction. The cycle that arms a wait sets the flag and clears the latch; from then on
the latch is the last key pressed since, whatever else happens, and the next cycle takes it.

## Main definitions

* `Chip8.presses` — the keys that are pressed in a run.
* `Chip8.Machine.Arms`, `Chip8.Machine.Awaits`, `Chip8.Machine.Collects` — the next cycle begins a
  wait, is part of one, or ends one with a key.
* `Chip8.Machine.Poised` — a machine that waits stands on the instruction that waits.
* `Chip8.Machine.Waits` — a run that has been waiting since one of its cycles.
* `Chip8.Machine.Handshake` — which key a program gets, and when.

## Main results

* `Chip8.Machine.lasting_poised` — a machine that waits stays on the instruction that waits.
* `Chip8.Machine.Waits.lastKey_eq` — the latch is the last key pressed since the wait was armed.
* `Chip8.Machine.exists_waits` — every wait that is on was armed by a cycle of the run.
* `Chip8.Machine.handshake_of_run` — the handshake, in every run of every program.
-/

namespace Chip8

/-! ## Keys that are pressed -/

/-- The key that an action presses. A number that is no key presses none, and neither do new states
of all keys. -/
def Action.pressed? : Action → Option Key
  | .press key => (Key.ofInt key).toOption
  | _ => none

/-- The keys that are pressed in a run, in order. -/
def presses (actions : List Action) : List Key :=
  actions.filterMap Action.pressed?

/-- The last key of a run is that of its last action, if this presses one. -/
lemma getLast?_presses_concat (actions : List Action) (action : Action) :
    (presses (actions ++ [action])).getLast? =
      action.pressed?.or (presses actions).getLast? := by
  rw [presses, List.filterMap_append, List.getLast?_append]
  cases h : action.pressed? <;> simp [h, presses]

/-- The last key of a run is that of the part after a cycle, if there is one. -/
lemma getLast?_presses_of_suffix {before since : List Action} {k : Key}
    (h : (presses since).getLast? = some k) :
    (presses (before ++ .step :: since)).getLast? = some k := by
  have hsplit : presses (before ++ .step :: since) = presses before ++ presses since := by
    rw [presses, List.filterMap_append, List.filterMap_cons_none rfl]
    rfl
  rw [hsplit, List.getLast?_append, h]
  rfl

namespace Machine

/-- Two machines stand at the same place of the same program, and both wait for a key or none. -/
structure SameStand (s s' : Machine) : Prop where
  /-- The memory is the same. -/
  memory : s'.memory = s.memory
  /-- The program counter is the same. -/
  pc : s'.pc = s.pc
  /-- Both wait, or none does. -/
  awaitingKey : s'.awaitingKey = s.awaitingKey
  /-- The same fault is on record. -/
  fault : s'.fault = s.fault

/-- The next instruction depends on where a machine stands only. -/
lemma Executes.congr {s s' : Machine} {i : Instruction} (h : s.Executes i) (hs : SameStand s s') :
    s'.Executes i := by
  refine ⟨hs.fault.trans h.healthy, ?_⟩
  rw [nextWord, hs.memory, hs.pc]
  exact h.word

/-- Only a cycle moves a machine, and only a press sets the latch. -/
lemma act_of_ne_step (s : Machine) {action : Action} (h : action ≠ .step) :
    SameStand s (s.act action) ∧ (s.act action).lastKey = action.pressed?.or s.lastKey := by
  cases action with
  | step => exact absurd rfl h
  | decrementTimers => exact ⟨⟨rfl, rfl, rfl, rfl⟩, rfl⟩
  | press key =>
    cases hk : Key.ofInt key <;> simp only [act, perform, Action.pressed?, hk] <;>
      exact ⟨⟨rfl, rfl, rfl, rfl⟩, rfl⟩
  | release key =>
    cases hk : Key.ofInt key <;> simp only [act, perform, Action.pressed?, hk] <;>
      exact ⟨⟨rfl, rfl, rfl, rfl⟩, rfl⟩
  | setKeypad states =>
    cases hp : states.keypad <;> simp only [act, perform, Action.pressed?, hp] <;>
      exact ⟨⟨rfl, rfl, rfl, rfl⟩, rfl⟩

/-! ## Cycles of a wait -/

/-- A wait for a key into a register is on, and the next cycle is part of it. -/
structure Awaits (s : Machine) (x : Register) : Prop where
  /-- The next instruction is the wait. -/
  executes : s.Executes (.awaitKey x)
  /-- The flag is set. -/
  awaitingKey : s.awaitingKey = true

/-- The next cycle arms a wait for a key into a register: the machine stays on the instruction, with
the flag set and an earlier key forgotten. -/
structure Arms (s : Machine) (x : Register) : Prop where
  /-- The next instruction is the wait. -/
  executes : s.Executes (.awaitKey x)
  /-- No wait is on. -/
  idle : s.awaitingKey = false
  /-- The wait is on after the cycle. -/
  awaits : s.step.Awaits x
  /-- The program counter is moved back to the instruction. -/
  pc : s.step.pc = s.pc
  /-- The latch is cleared. -/
  lastKey : s.step.lastKey = none

/-- The next cycle waits for a key, stores one in a register and goes on to the next instruction. -/
structure Collects (s : Machine) (x : Register) (k : Key) : Prop where
  /-- The next instruction is the wait. -/
  executes : s.Executes (.awaitKey x)
  /-- The register holds the key after the cycle. -/
  reg : s.step.reg x = UInt8.ofNat k.val
  /-- The program counter moves past the instruction. -/
  pc : s.step.pc = s.pc + 2

/-- The machine that has stored a key in a register and is past its wait. -/
def collect (s : Machine) (x : Register) (k : Key) : Machine :=
  { s.setReg x (UInt8.ofNat k.val) with
    pc := s.pc + 2
    lastKey := none
    awaitingKey := false }

/-- A wait that finds a key ends with it. -/
lemma step_of_latched {s : Machine} {x : Register} {k : Key} (h : s.Awaits x)
    (hk : s.lastKey = some k) : s.step = s.collect x k := by
  refine step_of_run h.executes ?_
  rw [Instruction.run, awaitKey_of_latched x (s := s.advance) h.awaitingKey hk]
  rfl

/-- A wait that begins or finds no key leaves the machine where it is. -/
lemma step_of_unlatched {s : Machine} {x : Register} (hi : s.Executes (.awaitKey x))
    (h : s.awaitingKey = false ∨ s.lastKey = none) :
    s.step = { s with lastKey := none, awaitingKey := true } := by
  have hpc : s.advance.pc - 2 = s.pc := UInt16.add_sub_cancel s.pc 2
  refine step_of_run hi ?_
  rw [Instruction.run, awaitKey_of_unlatched (s := s.advance) x h, hpc]
  rfl

/-- A wait that goes on without a key does nothing at all. -/
lemma step_of_awaits {s : Machine} {x : Register} (h : s.Awaits x) (hk : s.lastKey = none) :
    s.step = s := by
  have hstep := step_of_unlatched h.executes (.inr hk)
  rw [← hk, ← h.awaitingKey] at hstep
  exact hstep

/-- A cycle after which a wait is on, and was not before, arms it. -/
lemma exists_arms {s : Machine} (h : s.awaitingKey = false) (hstep : s.step.awaitingKey = true) :
    ∃ x, s.Arms x := by
  have hstays : s.step.awaitingKey ≠ s.awaitingKey := by rw [h, hstep]; decide
  rcases s.step_cases with ⟨r, -, heq⟩ | ⟨trap, -, -, heq⟩ | ⟨i, s', hi, hrun, heq⟩
  · rw [heq] at hstays
    exact absurd rfl hstays
  · rw [heq] at hstays
    exact absurd rfl hstays
  · by_cases hx : ∃ x, i = .awaitKey x
    · obtain ⟨x, rfl⟩ := hx
      have heq := step_of_unlatched hi (.inl h)
      have hstand : s.Executes (.awaitKey x) → s.step.Executes (.awaitKey x) := fun hi => by
        rw [heq]
        exact ⟨hi.healthy, hi.word⟩
      exact ⟨x, hi, h, ⟨hstand hi, hstep⟩, by rw [heq], by rw [heq]⟩
    · rw [heq] at hstays
      exact absurd (sameControls_of_run hrun fun x hi => hx ⟨x, hi⟩).awaitingKey hstays

/-- The bytes of two keys differ if the keys do. -/
lemma ofNat_key_injective : Function.Injective fun k : Key => UInt8.ofNat k.val := by
  intro k k' h
  have hk := k.isLt
  have hk' := k'.isLt
  have hnat := congrArg UInt8.toNat h
  simp only [UInt8.toNat_ofNat'] at hnat
  exact Fin.ext (by omega)

/-- A wait ends with a key exactly if it is on and the latch holds the key. -/
lemma collects_iff {s : Machine} {x : Register} {k : Key} :
    s.Collects x k ↔ s.Awaits x ∧ s.lastKey = some k := by
  constructor
  · rintro ⟨hi, hreg, hpc⟩
    have hmoved : s.step.pc ≠ s.pc := by
      rw [hpc, ne_eq, UInt16.add_eq_left]
      decide
    have hfound : ¬(s.awaitingKey = false ∨ s.lastKey = none) := fun h => by
      rw [step_of_unlatched hi h] at hmoved
      exact hmoved rfl
    have ha : s.awaitingKey = true := by
      cases h : s.awaitingKey with
      | false => exact absurd (.inl h) hfound
      | true => rfl
    cases hk : s.lastKey with
    | none => exact absurd (.inr hk) hfound
    | some k' =>
      rw [step_of_latched ⟨hi, ha⟩ hk] at hreg
      have hval : UInt8.ofNat k'.val = UInt8.ofNat k.val := by
        rw [← hreg]
        exact ((s.reg_setReg x x _).trans (if_pos rfl)).symm
      exact ⟨⟨hi, ha⟩, congrArg some (ofNat_key_injective hval)⟩
  · rintro ⟨h, hk⟩
    have hstep := step_of_latched h hk
    refine ⟨h.executes, ?_, by rw [hstep]; rfl⟩
    rw [hstep]
    exact (s.reg_setReg x x _).trans (if_pos rfl)

/-- An action after which a wait is still on leaves it where it is, and the latch is the key that
the action presses, or else the key that it held. -/
lemma Awaits.act {s : Machine} {x : Register} (h : s.Awaits x) {action : Action}
    (hon : (s.act action).awaitingKey = true) :
    (s.act action).Awaits x ∧ (s.act action).pc = s.pc ∧
      (s.act action).lastKey = action.pressed?.or s.lastKey := by
  by_cases haction : action = .step
  · subst haction
    cases hk : s.lastKey with
    | none =>
      have hstays : s.act .step = s := step_of_awaits h hk
      rw [hstays]
      exact ⟨h, rfl, hk⟩
    | some k =>
      -- the wait would be over
      rw [show s.act .step = s.collect x k from step_of_latched h hk] at hon
      cases hon
  · obtain ⟨hstand, hkey⟩ := s.act_of_ne_step haction
    exact ⟨⟨h.executes.congr hstand, hon⟩, hstand.pc, hkey⟩

/-- Where a wait is on, the machine stands on the instruction that waits. -/
def Poised (s : Machine) : Prop :=
  s.awaitingKey = true → ∃ x, s.Awaits x

/-- A machine stays poised as long as it stands where it stood. -/
lemma Poised.congr {s s' : Machine} (h : s.Poised) (hs : SameStand s s') : s'.Poised := by
  intro hon
  obtain ⟨x, hx⟩ := h (hs.awaitingKey.symm.trans hon)
  exact ⟨x, hx.executes.congr hs, hon⟩

/-- **No action takes a waiting machine away from the instruction that waits.** A wait that is on
after a cycle was on before and goes on, or is armed by the cycle. -/
theorem lasting_poised : Lasting Poised where
  step s h hon := by
    cases hwas : s.awaitingKey with
    | true =>
      obtain ⟨x, hx⟩ := h hwas
      have hgoes : (s.act .step).awaitingKey = true := hon
      exact ⟨x, (hx.act hgoes).1⟩
    | false =>
      obtain ⟨x, harms⟩ := exists_arms hwas hon
      exact ⟨x, harms.awaits⟩
  decrementTimers _ h := h.congr ⟨rfl, rfl, rfl, rfl⟩
  press _ _ h := h.congr ⟨rfl, rfl, rfl, rfl⟩
  release _ _ h := h.congr ⟨rfl, rfl, rfl, rfl⟩
  setKeypad _ _ h := h.congr ⟨rfl, rfl, rfl, rfl⟩

/-- A machine that is poised stays poised for any number of cycles. -/
lemma Poised.runSteps {s : Machine} (h : s.Poised) (n : ℕ) : (s.runSteps n).Poised :=
  repeat_keeps lasting_poised.step h n

/-- A cycle of a machine that waits for a key and has found none does nothing. -/
lemma step_of_isWaiting {s : Machine} (h : s.Poised) (hwaiting : s.isWaiting = true) :
    s.step = s := by
  rw [isWaiting, Bool.and_eq_true, Option.isNone_iff_eq_none] at hwaiting
  obtain ⟨x, hx⟩ := h hwaiting.1
  exact step_of_awaits hx hwaiting.2

/-! ## Runs that wait -/

/-- A run that has been waiting for a key since the cycle after its first part. That cycle armed the
wait; ever since the flag has been set and the machine has stood on the same instruction, so the
cycles in between executed nothing else. -/
structure Waits (start : Machine) (x : Register) (before since : List Action) : Prop where
  /-- The cycle after the first part arms the wait. -/
  arms : (start.after before).Arms x
  /-- The wait has been on ever since, at the same place. -/
  lasts : ∀ part, part <+: since →
    (start.after (before ++ .step :: part)).Awaits x ∧
      (start.after (before ++ .step :: part)).pc = (start.after before).pc

/-- A run that goes on by one action since some cycle. -/
lemma after_step_concat (s : Machine) (before since : List Action) (action : Action) :
    s.after (before ++ .step :: (since ++ [action])) =
      (s.after (before ++ .step :: since)).act action := by
  rw [← List.cons_append, ← List.append_assoc, after_concat]

/-- A run waits from the cycle that arms the wait on. -/
lemma waits_nil {start : Machine} {x : Register} {before : List Action}
    (h : (start.after before).Arms x) : Waits start x before [] := by
  have hstep : start.after (before ++ [.step]) = (start.after before).step := by
    rw [after_append]
    rfl
  refine ⟨h, fun part hpart => ?_⟩
  rw [List.prefix_nil.mp hpart, hstep]
  exact ⟨h.awaits, h.pc⟩

namespace Waits

variable {start : Machine} {x : Register} {before since : List Action}

/-- The wait is on at the end of the run. -/
lemma awaits (h : Waits start x before since) :
    (start.after (before ++ .step :: since)).Awaits x :=
  (h.lasts since List.prefix_rfl).1

/-- The run waited at every earlier moment since the wait was armed. -/
lemma of_concat {action : Action} (h : Waits start x before (since ++ [action])) :
    Waits start x before since :=
  ⟨h.arms, fun part hpart => h.lasts part (hpart.trans (List.prefix_append since [action]))⟩

/-- The run still waits after an action that leaves the flag set. -/
lemma concat (h : Waits start x before since) {action : Action}
    (hon : ((start.after (before ++ .step :: since)).act action).awaitingKey = true) :
    Waits start x before (since ++ [action]) := by
  obtain ⟨hawaits, hpc⟩ := h.lasts since List.prefix_rfl
  obtain ⟨hawaits', hpc', -⟩ := hawaits.act hon
  refine ⟨h.arms, fun part hpart => ?_⟩
  rcases List.prefix_concat_iff.mp hpart with rfl | hpart
  · rw [after_step_concat]
    exact ⟨hawaits', hpc'.trans hpc⟩
  · exact h.lasts part hpart

/-- **The latch is the last key pressed since the wait was armed.**

**Proof sketch.** By induction on what happened since. The cycle that arms the wait clears the
latch, and after that only presses set it: a cycle that found a key would have ended the wait. -/
theorem lastKey_eq (h : Waits start x before since) :
    (start.after (before ++ .step :: since)).lastKey = (presses since).getLast? := by
  induction since using List.reverseRecOn with
  | nil =>
    rw [after_append]
    exact h.arms.lastKey
  | append_singleton since action ih =>
    have hon := h.awaits.awaitingKey
    rw [after_step_concat] at hon ⊢
    rw [(h.of_concat.awaits.act hon).2.2, ih h.of_concat, getLast?_presses_concat]

end Waits

/-- **Every wait that is on was armed by a cycle of the run**, and has been on ever since.

**Proof sketch.** By induction on the run: an action after which a wait is on either found it on, or
is a cycle that arms it. -/
theorem exists_waits {start : Machine} (hstart : start.awaitingKey = false)
    (actions : List Action) (hon : (start.after actions).awaitingKey = true) :
    ∃ x before since, actions = before ++ .step :: since ∧ Waits start x before since := by
  induction actions using List.reverseRecOn with
  | nil =>
    rw [after_nil, hstart] at hon
    cases hon
  | append_singleton actions action ih =>
    have hafter : start.after (actions ++ [action]) = (start.after actions).act action := by
      rw [after_append]
      rfl
    rw [hafter] at hon
    cases hwas : (start.after actions).awaitingKey with
    | true =>
      obtain ⟨x, before, since, rfl, h⟩ := ih hwas
      exact ⟨x, before, since ++ [action], by simp, h.concat hon⟩
    | false =>
      by_cases haction : action = .step
      · subst haction
        obtain ⟨x, harms⟩ := exists_arms hwas hon
        exact ⟨x, actions, [], rfl, waits_nil harms⟩
      · rw [((start.after actions).act_of_ne_step haction).1.awaitingKey, hwas] at hon
        cases hon

/-- A key that a program gets was pressed last of all since the wait for it was armed. -/
lemma waits_of_collects {start : Machine} (hstart : start.awaitingKey = false)
    {actions : List Action} {x : Register} {k : Key} (h : (start.after actions).Collects x k) :
    ∃ before since, actions = before ++ .step :: since ∧ Waits start x before since ∧
      (presses since).getLast? = some k := by
  obtain ⟨hawaits, hk⟩ := collects_iff.mp h
  obtain ⟨y, before, since, rfl, hwaits⟩ := exists_waits hstart actions hawaits.awaitingKey
  have hxy : Instruction.awaitKey x = .awaitKey y :=
    Instruction.word_injective (hawaits.executes.word.symm.trans hwaits.awaits.executes.word)
  cases hxy
  exact ⟨before, since, rfl, hwaits, hwaits.lastKey_eq.symm.trans hk⟩

/-! ## The handshake -/

/-- The handshake between a program and the surroundings that press keys: which key the program
gets, and when. -/
structure Handshake (start : Machine) : Prop where
  /-- A key that the program gets is that of the last press of the run, and the press came after a
  cycle that armed the same wait, with nothing else executed in between. -/
  collected : ∀ actions x k, (start.after actions).Collects x k →
    (presses actions).getLast? = some k ∧
      ∃ before since, actions = before ++ .step :: since ∧ Waits start x before since ∧
        (presses since).getLast? = some k
  /-- Whenever a wait is on, some cycle of the run armed it. -/
  armed : ∀ actions, (start.after actions).awaitingKey = true →
    ∃ x before since, actions = before ++ .step :: since ∧ Waits start x before since
  /-- A wait ends with the next cycle if a key was pressed since it was armed: the last such key is
  stored, held still or not. -/
  answered : ∀ x before since k, Waits start x before since → (presses since).getLast? = some k →
    (start.after (before ++ .step :: since)).step =
      (start.after (before ++ .step :: since)).collect x k
  /-- A wait goes on if none was: neither earlier presses nor new states of all keys end it. -/
  unanswered : ∀ x before since, Waits start x before since → presses since = [] →
    (start.after (before ++ .step :: since)).step = start.after (before ++ .step :: since)
  /-- A press ends one wait at most: of two keys that the program gets, the second was pressed after
  the first was stored. -/
  once : ∀ first second x y k l, (start.after first).Collects x k →
    (start.after (first ++ .step :: second)).Collects y l → (presses second).getLast? = some l

/-- **The handshake holds in every run of every program**, whatever cycles, periods of the timers
and keys come in which order.

**Proof sketch.** No wait is on at the beginning, so every wait was armed in the run, and the latch
tells what was pressed since. When a wait has ended none is on, and the same holds from there. -/
theorem handshake_of_run (key : RandomKey) (rom : List UInt8) (hrom : rom.length ≤ romCapacity) :
    ∃ start, (new key).loadRom rom = .ok start ∧ Handshake start := by
  have hstart : { new key with
      memory := (new key).memory.writeBytes programStart rom }.awaitingKey = false := rfl
  refine ⟨_, loadRom_eq_ok _ hrom, ?_⟩
  generalize { new key with memory := (new key).memory.writeBytes programStart rom } = start
    at hstart ⊢
  constructor
  case collected =>
    intro actions x k h
    obtain ⟨before, since, rfl, hwaits, hk⟩ := waits_of_collects hstart h
    exact ⟨getLast?_presses_of_suffix hk, before, since, rfl, hwaits, hk⟩
  case armed => exact exists_waits hstart
  case answered =>
    intro x before since k h hk
    exact step_of_latched h.awaits (h.lastKey_eq.trans hk)
  case unanswered =>
    intro x before since h hnone
    refine step_of_awaits h.awaits ?_
    rw [h.lastKey_eq, hnone]
    rfl
  case once =>
    intro first second x y k l hfirst hsecond
    obtain ⟨hawaits, hk⟩ := collects_iff.mp hfirst
    -- the first key leaves no wait behind, so the second wait was armed after it
    have hover : (start.after first).step.awaitingKey = false := by
      rw [step_of_latched hawaits hk]
      rfl
    rw [after_append, after_cons] at hsecond
    obtain ⟨before, since, rfl, -, hl⟩ := waits_of_collects hover hsecond
    exact getLast?_presses_of_suffix hl

/-- A program that waits for a key forgets the one pressed before, and gets the last of two that are
pressed later although it has been let go. -/
theorem handshake_of_run_two_presses :
    [0xF3, 0x0A].length ≤ romCapacity ∧
      ∃ start, (new ⟨0, 0⟩).loadRom [0xF3, 0x0A] = .ok start ∧ Handshake start ∧
        (start.after [.press 9, .step, .press 7, .press 4, .release 4]).Collects 3 4 := by
  obtain ⟨start, hload, h⟩ := handshake_of_run ⟨0, 0⟩ [0xF3, 0x0A] (by decide)
  refine ⟨by decide, start, hload, h, ?_⟩
  obtain rfl := Except.ok.inj ((loadRom_eq_ok _ (by decide)).symm.trans hload)
  exact ⟨⟨by decide +kernel, by decide +kernel⟩, by decide +kernel, by decide +kernel⟩

end Machine

end Chip8
