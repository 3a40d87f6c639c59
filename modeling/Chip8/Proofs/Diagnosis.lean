import Chip8.Host.Standard
import Chip8.Proofs.Run

set_option autoImplicit false

/-!
# The fault record as a diagnosis

A stopped machine stays on the instruction that stopped it: whatever is done to it afterwards moves
neither its program counter nor its memory nor its stack. So the record of its fault can be checked
against the machine at any later time, and the report made from it is right.

## Main definitions

* `Chip8.Machine.Justified` — a fault on record is the one that the machine would stop on now.
* `Chip8.Machine.Diagnosed` — what the fault record of a machine says in numbers, and what report is
  made from it.

## Main results

* `Chip8.Machine.lasting_justified` — no action makes the record wrong.
* `Chip8.Machine.diagnosed_of_run` — the record is right at the end of every run.
-/

namespace Chip8.Machine

/-- A fault on record is the one that the machine would stop on now: its word is the next word, its
program counter is where the machine stands, and its trap is sprung. -/
structure Justified (s : Machine) (r : FaultRecord) : Prop where
  /-- The word of the record is the next word. -/
  opcode : r.opcode = s.nextWord
  /-- The program counter of the record is that of the machine. -/
  pc : r.pc = s.pc
  /-- The next word springs the trap of the record. -/
  trap : s.Springs r.trap

/-- A record stays justified as long as memory, program counter and stack stay the same. -/
lemma Justified.congr {s s' : Machine} {r : FaultRecord} (h : s.Justified r)
    (hmemory : s'.memory = s.memory) (hpc : s'.pc = s.pc) (hstack : s'.stack = s.stack) :
    s'.Justified r := by
  have hword : s'.nextWord = s.nextWord := by
    rw [nextWord, hmemory, hpc, nextWord]
  exact ⟨by rw [hword, h.opcode], by rw [hpc, h.pc], h.trap.congr hword (by rw [hstack])⟩

/-- The record that a cycle makes is justified. -/
lemma justified_stopOn {s : Machine} {trap : Trap} (h : s.Springs trap) :
    (s.stopOn trap).Justified { trap, opcode := s.nextWord, pc := s.pc } :=
  Justified.congr ⟨rfl, rfl, h⟩ rfl rfl rfl

/-- No action makes a record wrong.

**Proof sketch.** Only cycles make records, and a cycle of a stopped machine does nothing. The other
actions do not touch what a record is compared with. -/
theorem lasting_justified : Lasting fun s => ∀ r, s.fault = some r → s.Justified r where
  step s hs r hr := by
    rcases s.step_cases with ⟨r', -, hstep⟩ | ⟨trap, -, ht, hstep⟩ | ⟨i, s', hi, hrun, hstep⟩
    · rw [hstep] at hr ⊢
      exact hs r hr
    · rw [hstep] at hr ⊢
      cases hr
      exact justified_stopOn ht
    · have hnone : s'.fault = none := (fault_of_run hrun).trans hi.healthy
      rw [hstep, hnone] at hr
      cases hr
  decrementTimers _ hs r hr := (hs r hr).congr rfl rfl rfl
  press _ _ hs r hr := (hs r hr).congr rfl rfl rfl
  release _ _ hs r hr := (hs r hr).congr rfl rfl rfl
  setKeypad _ _ hs r hr := (hs r hr).congr rfl rfl rfl

/-- What the fault record of a machine says in numbers, and what report is made from it: nothing
while the machine is healthy, and otherwise the trap that the machine would stop on now. -/
structure Diagnosed (s : Machine) : Prop where
  /-- A code of zero goes with zeros, and the machine passes as healthy. -/
  healthy : s.faultCode = 0 → s.faultOpcode = 0 ∧ s.faultPc = 0 ∧ s.checked = .ok s
  /-- Any other code is that of a trap which the next word springs, and the report is about that
  trap, that word and the place where the machine stands. -/
  stopped : s.faultCode ≠ 0 →
    s.faultOpcode = s.nextWord ∧ s.faultPc = s.pc ∧
    ∃ trap, s.faultCode = trap.code ∧ s.Springs trap ∧
      s.checked = .error
        { kind := .trapped trap, opcode := s.nextWord.toNat, pc := s.pc.toNat }

/-- A machine whose record is justified is diagnosed. -/
lemma diagnosed_of_justified {s : Machine} (h : ∀ r, s.fault = some r → s.Justified r) :
    s.Diagnosed := by
  cases hf : s.fault with
  | none =>
    refine ⟨fun _ => ?_, fun hcode => ?_⟩
    · simp [faultOpcode, faultPc, checked, hf]
    · exact absurd (by simp [faultCode, hf]) hcode
  | some r =>
    obtain ⟨hopcode, hpc, htrap⟩ := h r hf
    refine ⟨fun hcode => ?_, fun _ => ?_⟩
    · have hpos : r.trap.code ≠ 0 := by cases r.trap <;> decide
      exact absurd (by simpa [faultCode, hf] using hcode) hpos
    · refine ⟨by simp [faultOpcode, hf, hopcode], by simp [faultPc, hf, hpc], r.trap,
        by simp [faultCode, hf], htrap, ?_⟩
      simp [checked, hf, FaultRecord.report, hopcode, hpc]

/-- **The fault record is right at the end of every run**, from a new machine with a program that
fits, through any operations, those that are asked of the machine after its fault included. -/
theorem diagnosed_of_run (host : Host) (key : RandomKey) (rom : List UInt8)
    (hrom : rom.length ≤ romCapacity) (operations : List Operation) :
    ∃ start, (new key).loadRom rom = .ok start ∧ (start.afterAll host operations).Diagnosed := by
  refine ⟨_, loadRom_eq_ok _ hrom, diagnosed_of_justified ?_⟩
  refine lasting_justified.afterAll host (fun r hr => ?_) operations
  cases hr

/-- A program that begins with a return stops on the empty stack, and is diagnosed still after
frames without effect, another key and a key that there is not. -/
theorem diagnosed_of_run_lone_return :
    [0x00, 0xEE].length ≤ romCapacity ∧
      ∃ start, (new ⟨0, 0⟩).loadRom [0x00, 0xEE] = .ok start ∧
        let stopped := start.afterAll .standard
          [.act .step, .runHeadless 2 3 false, .act (.press 5), .act (.press 16), .runSteps 2]
        stopped.Diagnosed ∧ stopped.faultCode = Trap.stackUnderflow.code := by
  obtain ⟨start, hload, hrun⟩ := diagnosed_of_run .standard ⟨0, 0⟩ [0x00, 0xEE] (by decide)
    [.act .step, .runHeadless 2 3 false, .act (.press 5), .act (.press 16), .runSteps 2]
  refine ⟨by decide, start, hload, hrun, ?_⟩
  obtain rfl := Except.ok.inj ((loadRom_eq_ok _ (by decide)).symm.trans hload)
  show (Machine.afterAll _ _ _).faultCode = _
  decide +kernel

end Chip8.Machine
