import Chip8.Proofs.Run
import Mathlib.Data.List.GetD

set_option autoImplicit false

/-!
# Calls and returns

A call stack has sixteen slots and a depth. A program sees a list in them, of the addresses behind
the calls that have not returned yet, the latest last: a call appends to the list, a return takes
its last entry and continues there. The list is never longer than there are slots, and the slots
beyond it are zero, so a call writes the first slot that is not in use and a return clears the last
one that is.

## Main definitions

* `Chip8.CallStack.Holds` — the slots and the depth of a stack hold a list of addresses.
* `Chip8.Machine.performed` — the instructions that a run performs.
* `Chip8.Machine.Cycles` — what a cycle makes of the return addresses.
* `Chip8.Machine.Stacked` — the return addresses of a run.

## Main results

* `Chip8.CallStack.Holds.push`, `Chip8.CallStack.Holds.pop` — a push appends, and a pop takes the
  last entry.
* `Chip8.Machine.exists_cycles` — what a cycle makes of the return addresses, by its instruction.
* `Chip8.Machine.stacked_of_run` — the stack holds the return addresses in every run.
-/

namespace Chip8

/-! ## The list in the slots -/

namespace CallStack

/-- The slots and the depth of a stack hold a list of addresses. -/
structure Holds (s : CallStack) (addresses : List ℕ) : Prop where
  /-- The list is as long as the stack is deep. -/
  length : addresses.length = s.depth
  /-- It is no longer than there are slots. -/
  room : addresses.length ≤ 16
  /-- A slot holds the entry of its number, or zero if the list ends before. -/
  slot : ∀ i (h : i < 16), s.slots[i].toNat = addresses.getD i 0
  /-- The entries are addresses of memory. -/
  bound : ∀ a ∈ addresses, a < 4096

/-- The addresses in use as numbers, the latest last. -/
def addresses (s : CallStack) : List ℕ :=
  s.toList.map UInt16.toNat

/-- A stack holds no list but that of its addresses in use. -/
lemma Holds.eq_addresses {s : CallStack} {addresses : List ℕ} (h : s.Holds addresses) :
    addresses = s.addresses := by
  have hlength : addresses.length = s.addresses.length := by
    rw [h.length, CallStack.addresses, List.length_map, length_toList]
  refine List.ext_getElem hlength fun i hi hi' => ?_
  have hslot := h.slot i (by have := h.room; omega)
  rw [List.getD_eq_getElem _ _ hi] at hslot
  simp [CallStack.addresses, toList, hslot]

/-- The entries of a list with one more at its end, and zeros beyond. -/
lemma getD_concat (addresses : List ℕ) (a i : ℕ) :
    (addresses ++ [a]).getD i 0 = if addresses.length = i then a else addresses.getD i 0 := by
  rcases lt_trichotomy i addresses.length with hlt | rfl | hgt
  · rw [List.getD_append _ _ _ _ hlt, if_neg (by omega)]
  · simp
  · rw [List.getD_eq_default _ _ (by simp; omega), List.getD_eq_default _ _ (by omega),
      if_neg (by omega)]

/-- The empty stack holds the empty list. -/
lemma holds_empty : empty.Holds [] where
  length := rfl
  room := Nat.zero_le 16
  slot i h := by simp [empty]
  bound a ha := absurd ha List.not_mem_nil

/-- A push appends an address, and writes the first slot that is not in use. -/
lemma Holds.push {s : CallStack} {addresses : List ℕ} (h : s.Holds addresses)
    (hroom : addresses.length < 16) (address : UInt16) :
    ∃ t, s.push? address = some t ∧ t.Holds (addresses ++ [address.toNat % 4096]) ∧
      t.slots = s.slots.set addresses.length (UInt16.ofNat (address.toNat % 4096)) := by
  have hdepth : s.depth < 16 := h.length ▸ hroom
  have hword : UInt16.ofNat (address.toNat % 4096) = address % 4096 := by
    rw [← UInt16.toNat_inj, UInt16.toNat_ofNat', UInt16.toNat_mod]
    exact Nat.mod_eq_of_lt ((Nat.mod_lt _ (by decide)).trans (by decide))
  refine ⟨_, dif_pos hdepth, ⟨?_, ?_, fun i hi => ?_, fun a ha => ?_⟩,
    by simp only [h.length, hword]⟩
  · simp [h.length]
  · simpa using hroom
  · rw [Vector.getElem_set, getD_concat, ← h.length]
    split
    · exact UInt16.toNat_mod address 4096
    · exact h.slot i hi
  · rcases List.mem_append.mp ha with ha | ha
    · exact h.bound a ha
    · rw [List.mem_singleton.mp ha]
      exact Nat.mod_lt _ (by decide)

/-- A pop takes the last address, and clears the last slot that is in use. -/
lemma Holds.pop {s : CallStack} {rest : List ℕ} {last : ℕ} (h : s.Holds (rest ++ [last])) :
    ∃ t address, s.pop? = some (address, t) ∧ address.toNat = last ∧ t.Holds rest ∧
      ∃ hlast : rest.length < 16, t.slots = s.slots.set rest.length 0 := by
  have hdepth : s.depth = rest.length + 1 := by rw [← h.length]; simp
  have hlast : rest.length < 16 := by have := s.depth_le; omega
  have hindex : s.depth - 1 = rest.length := by omega
  refine ⟨_, _, dif_neg (by omega), ?_, ⟨hindex.symm, hlast.le, fun i hi => ?_, fun a ha => ?_⟩,
    hlast, by simp only [hindex]⟩
  · simp only [hindex, h.slot _ hlast]
    simp
  · have hslot := h.slot i hi
    rw [getD_concat] at hslot
    simp only [Vector.getElem_set, hindex]
    split
    case isTrue hi =>
      rw [← hi, List.getD_eq_default _ _ le_rfl]
      rfl
    case isFalse hi => rw [hslot, if_neg hi]
  · exact h.bound a (List.mem_append_left _ ha)

end CallStack

/-! ## Instructions that are performed -/

/-- Whether an instruction is a call. -/
def Instruction.isCall : Instruction → Bool
  | .call _ => true
  | _ => false

namespace Machine

/-- The instruction that the next cycle performs, unless the machine has stopped or the cycle stops
it. -/
def performed? (s : Machine) : Option Instruction :=
  if s.step.isFaulted then none else Instruction.decode? s.nextWord.toNat

/-- The instructions that the cycles of a run perform, in order. -/
def performed (s : Machine) : List Action → List Instruction
  | [] => []
  | .step :: actions => s.performed?.toList ++ s.step.performed actions
  | action :: actions => (s.act action).performed actions

/-- A run performs what its parts perform. -/
lemma performed_append (s : Machine) (first second : List Action) :
    s.performed (first ++ second) = s.performed first ++ (s.after first).performed second := by
  induction first generalizing s with
  | nil => rfl
  | cons action first ih =>
    cases action with
    | step =>
      exact (congrArg (s.performed?.toList ++ ·) (ih s.step)).trans (List.append_assoc ..).symm
    | _ => exact ih _

/-- Only cycles perform instructions. -/
lemma performed_of_ne_step (s : Machine) {action : Action} (h : action ≠ .step) :
    s.performed [action] = [] := by
  cases action with
  | step => exact absurd rfl h
  | _ => rfl

/-- The instruction that the next cycle performs is that of its next word. -/
lemma performed?_eq_some_iff {s : Machine} {i : Instruction} :
    s.performed? = some i ↔ s.Executes i ∧ s.step.fault = none := by
  unfold performed? isFaulted
  cases hstep : s.step.fault with
  | some r => simp
  | none =>
    simp only [Option.isSome_none, Bool.false_eq_true, if_false, decode?_nextWord, and_true]
    exact ⟨fun hword => ⟨fault_eq_none_of_step hstep, hword⟩, Executes.word⟩

/-! ## Return addresses -/

/-- What a cycle makes of the return addresses of a machine, by its instruction. -/
inductive Cycles (s : Machine) (before : List ℕ) : List ℕ → Prop where
  /-- A call that finds room appends the address behind it, in the first slot not in use, and
  continues at its target. -/
  | call (target : Fin 4096) (hcall : s.Executes (.call target)) (hroom : before.length < 16)
      (hgoes : s.step.fault = none) (hpc : s.step.pc.toNat = target.val)
      (hslots : s.step.stack.slots =
        s.stack.slots.set before.length (UInt16.ofNat ((s.pc.toNat + 2) % 4096))) :
      Cycles s before (before ++ [(s.pc.toNat + 2) % 4096])
  /-- A return that finds an address takes the last one, clears the last slot in use, and continues
  at the address. -/
  | ret (rest : List ℕ) (last : ℕ) (hret : s.Executes .ret) (hbefore : before = rest ++ [last])
      (hgoes : s.step.fault = none) (hpc : s.step.pc.toNat = last) (hlast : rest.length < 16)
      (hslots : s.step.stack.slots = s.stack.slots.set rest.length 0) :
      Cycles s before rest
  /-- A call that finds no room stops the machine. -/
  | overflow (target : Fin 4096) (hcall : s.Executes (.call target)) (hfull : before.length = 16)
      (hstops : s.step = s.stopOn .stackOverflow) : Cycles s before before
  /-- A return that finds no address stops the machine. -/
  | underflow (hret : s.Executes .ret) (hempty : before = [])
      (hstops : s.step = s.stopOn .stackUnderflow) : Cycles s before before
  /-- Any other cycle leaves the stack alone. -/
  | other (hcall : ∀ target, ¬s.Executes (.call target)) (hret : ¬s.Executes .ret)
      (hstack : s.step.stack = s.stack) : Cycles s before before

/-- A cycle with a call. -/
lemma exists_cycles_of_call {s : Machine} {before : List ℕ} (h : s.stack.Holds before)
    {target : Fin 4096} (hcall : s.Executes (.call target)) :
    ∃ after, s.step.stack.Holds after ∧ s.Cycles before after := by
  by_cases hroom : before.length < 16
  · obtain ⟨stack, hpush, hholds, hslots⟩ := h.push hroom s.advance.pc
    have hstep : s.step = { s.advance with stack }.jumpTo target.val := by
      refine step_of_run hcall ?_
      have hstack : s.advance.stack = s.stack := rfl
      simp only [Instruction.run, hstack, hpush]
    have haddress : s.advance.pc.toNat % 4096 = (s.pc.toNat + 2) % 4096 := by
      simp only [advance, UInt16.toNat_add, UInt16.reduceToNat]
      omega
    refine ⟨_, ?_, .call target hcall hroom ?_ ?_ ?_⟩
    · rw [hstep, ← haddress]
      exact hholds
    · rw [hstep]
      exact hcall.healthy
    · rw [hstep]
      exact UInt16.toNat_ofNat_of_lt' (target.isLt.trans (by decide))
    · rw [hstep, ← haddress]
      exact hslots
  · have hfull : s.stack.depth = 16 := by
      have := h.room
      rw [← h.length]
      omega
    have hsprings : s.Springs .stackOverflow :=
      ⟨(exists_call_iff s.nextWord.toNat_lt).mp ⟨target, hcall.word⟩, hfull⟩
    have hstep := step_of_springs hcall.healthy hsprings
    refine ⟨before, ?_, .overflow target hcall (h.length.trans hfull) hstep⟩
    rw [hstep]
    exact h

/-- A cycle with a return. -/
lemma exists_cycles_of_ret {s : Machine} {before : List ℕ} (h : s.stack.Holds before)
    (hret : s.Executes .ret) : ∃ after, s.step.stack.Holds after ∧ s.Cycles before after := by
  rcases List.eq_nil_or_concat' before with rfl | ⟨rest, last, rfl⟩
  · have hsprings : s.Springs .stackUnderflow := ⟨hret.word, h.length.symm⟩
    have hstep := step_of_springs hret.healthy hsprings
    refine ⟨[], ?_, .underflow hret rfl hstep⟩
    rw [hstep]
    exact h
  · obtain ⟨stack, address, hpop, haddress, hholds, hlast, hslots⟩ := h.pop
    have hstep : s.step = { s.advance with stack, pc := address } := by
      refine step_of_run hret ?_
      have hstack : s.advance.stack = s.stack := rfl
      simp only [Instruction.run, hstack, hpop]
    refine ⟨rest, ?_, .ret rest last hret rfl ?_ ?_ hlast ?_⟩
    · rw [hstep]
      exact hholds
    · rw [hstep]
      exact hret.healthy
    · rw [hstep]
      exact haddress
    · rw [hstep]
      exact hslots

/-- A cycle with neither a call nor a return leaves the stack alone. -/
lemma stack_step {s : Machine} (hcall : ∀ target, ¬s.Executes (.call target))
    (hret : ¬s.Executes .ret) : s.step.stack = s.stack := by
  rcases s.step_cases with ⟨r, -, hstep⟩ | ⟨trap, -, -, hstep⟩ | ⟨i, s', hi, hrun, hstep⟩
  · rw [hstep]
  · rw [hstep]
    rfl
  · rw [hstep, stack_of_run hrun]
    · rfl
    · rintro target rfl
      exact hcall target hi
    · rintro rfl
      exact hret hi

/-- **What a cycle makes of the return addresses**: the stack holds a list after it if it held one
before. -/
theorem exists_cycles {s : Machine} {before : List ℕ} (h : s.stack.Holds before) :
    ∃ after, s.step.stack.Holds after ∧ s.Cycles before after := by
  by_cases hcall : ∃ target, s.Executes (.call target)
  · obtain ⟨target, hcall⟩ := hcall
    exact exists_cycles_of_call h hcall
  · by_cases hret : s.Executes .ret
    · exact exists_cycles_of_ret h hret
    · have hstack := stack_step (not_exists.mp hcall) hret
      exact ⟨before, by rwa [hstack], .other (not_exists.mp hcall) hret hstack⟩

/-- Only a cycle touches the stack. -/
lemma stack_act_of_ne_step (s : Machine) {action : Action} (h : action ≠ .step) :
    (s.act action).stack = s.stack := by
  rw [s.act_eq_of_ne_step h]

/-- The stack holds its addresses in use whatever is done to the machine. -/
lemma lasting_holds : Lasting fun s => s.stack.Holds s.stack.addresses where
  step s h := by
    obtain ⟨after, hafter, -⟩ := exists_cycles h
    exact hafter.eq_addresses ▸ hafter
  decrementTimers _ h := h
  press _ _ h := h
  release _ _ h := h
  setKeypad _ _ h := h

/-- A cycle lengthens the list by the calls that it performs, and shortens it by the returns. -/
lemma Cycles.balance {s : Machine} {before after : List ℕ} (h : s.Cycles before after) :
    after.length + (s.performed [.step]).count .ret =
      before.length + (s.performed [.step]).countP Instruction.isCall := by
  have hperformed : s.performed [.step] = s.performed?.toList := List.append_nil _
  rw [hperformed]
  cases h with
  | call target hcall hroom hgoes =>
    rw [performed?_eq_some_iff.mpr ⟨hcall, hgoes⟩]
    simp [Instruction.isCall]
  | ret rest last hret hbefore hgoes =>
    rw [performed?_eq_some_iff.mpr ⟨hret, hgoes⟩, hbefore]
    simp [Instruction.isCall]
  | overflow target hcall hfull hstops | underflow hret hempty hstops =>
    have hnone : s.performed? = none := by
      rw [performed?, hstops]
      rfl
    rw [hnone]
    rfl
  | other hcall hret =>
    cases hi : s.performed? with
    | none => rfl
    | some i =>
      have hexecutes := (performed?_eq_some_iff.mp hi).1
      have hcount : i.isCall = false ∧ i ≠ .ret := by
        refine ⟨?_, fun h => hret (h ▸ hexecutes)⟩
        cases i with
        | call target => exact absurd hexecutes (hcall target)
        | _ => rfl
      simp [hcount]

/-! ## Runs -/

/-- The return addresses of a run: a list for every history, which the stack holds at its end. -/
structure Stacked (start : Machine) (addresses : List Action → List ℕ) : Prop where
  /-- There is none at the beginning. -/
  nil : addresses [] = []
  /-- The stack holds the list. -/
  holds : ∀ actions, (start.after actions).stack.Holds (addresses actions)
  /-- A cycle changes the list by its instruction. -/
  cycle : ∀ actions,
    (start.after actions).Cycles (addresses actions) (addresses (actions ++ [.step]))
  /-- Whatever else is done changes neither the list nor the stack. -/
  other : ∀ actions action, action ≠ .step →
    addresses (actions ++ [action]) = addresses actions ∧
      (start.after (actions ++ [action])).stack = (start.after actions).stack
  /-- There are as many as calls were performed, less the returns. -/
  balance : ∀ actions, (addresses actions).length + (start.performed actions).count .ret =
    (start.performed actions).countP Instruction.isCall

/-- **The stack holds the return addresses in every run**, of every program, whatever cycles,
periods of the timers and keys come in which order.

**Proof sketch.** The list of a history is that of the addresses in use. A cycle changes it as
`exists_cycles` says, since a stack holds one list only; nothing else touches the stack. The balance
follows by induction on the run. -/
theorem stacked_of_run (key : RandomKey) (rom : List UInt8) (hrom : rom.length ≤ romCapacity) :
    ∃ start, (new key).loadRom rom = .ok start ∧ ∃ addresses, Stacked start addresses := by
  have hstart : { new key with
      memory := (new key).memory.writeBytes programStart rom }.stack.Holds [] :=
    CallStack.holds_empty
  refine ⟨_, loadRom_eq_ok _ hrom, ?_⟩
  generalize { new key with memory := (new key).memory.writeBytes programStart rom } = start
    at hstart ⊢
  have hnil : start.stack.addresses = [] := hstart.eq_addresses.symm
  have hholds : ∀ actions,
      (start.after actions).stack.Holds (start.after actions).stack.addresses :=
    lasting_holds.after (hnil ▸ hstart)
  have hcycle : ∀ actions, (start.after actions).Cycles (start.after actions).stack.addresses
      (start.after (actions ++ [.step])).stack.addresses := fun actions => by
    obtain ⟨after, hafter, hcycles⟩ := exists_cycles (hholds actions)
    rw [after_concat]
    exact hafter.eq_addresses ▸ hcycles
  have hother : ∀ actions action, action ≠ .step →
      (start.after (actions ++ [action])).stack = (start.after actions).stack :=
    fun actions action haction => by
      rw [after_concat]
      exact stack_act_of_ne_step _ haction
  refine ⟨fun actions => (start.after actions).stack.addresses, hnil, hholds, hcycle,
    fun actions action haction => ?_, fun actions => ?_⟩
  · have hstack := hother actions action haction
    exact ⟨congrArg CallStack.addresses hstack, hstack⟩
  · induction actions using List.reverseRecOn with
    | nil => rw [after_nil, hnil]; rfl
    | append_singleton actions action ih =>
      rw [performed_append, List.count_append, List.countP_append]
      by_cases haction : action = .step
      · subst haction
        have := (hcycle actions).balance
        omega
      · rw [performed_of_ne_step _ haction, hother actions action haction]
        exact ih

/-- A program that calls a subroutine, which returns, and then calls itself until there is no room:
one address is held after the call, none after the return although a key is pressed in between, and
sixteen at the end, when the seventeenth call has stopped the machine. -/
theorem stacked_of_run_until_full :
    [0x22, 0x04, 0x22, 0x02, 0x00, 0xEE].length ≤ romCapacity ∧
      ∃ start, (new ⟨0, 0⟩).loadRom [0x22, 0x04, 0x22, 0x02, 0x00, 0xEE] = .ok start ∧
        ∃ addresses, Stacked start addresses ∧
          addresses [.step] = [0x202] ∧
          addresses [.step, .press 3, .step] = [] ∧
          addresses (List.replicate 19 .step) = List.replicate 16 0x204 ∧
          (start.after (List.replicate 19 .step)).faultCode = Trap.stackOverflow.code := by
  obtain ⟨start, hload, addresses, h⟩ :=
    stacked_of_run ⟨0, 0⟩ [0x22, 0x04, 0x22, 0x02, 0x00, 0xEE] (by decide)
  refine ⟨by decide, start, hload, addresses, h, ?_⟩
  obtain rfl := Except.ok.inj ((loadRom_eq_ok _ (by decide)).symm.trans hload)
  rw [(h.holds _).eq_addresses, (h.holds _).eq_addresses, (h.holds _).eq_addresses]
  decide +kernel

end Machine

end Chip8
