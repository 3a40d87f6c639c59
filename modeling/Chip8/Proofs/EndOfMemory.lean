import Chip8.Proofs.Diagnosis
import Chip8.Proofs.Observation
import Chip8.Proofs.Successor
import Chip8.Proofs.Tracing

set_option autoImplicit false

/-!
# The end of memory

The program counter is sixteen bits wide, and memory has addresses of twelve bits. Jumps, calls and
returns go on in memory, but an instruction on the last word goes on behind it, and so does a skip
on the word before. Nothing holds the machine back: words are read around the end of memory, so it
executes the words at the beginning, at addresses that memory does not have.

A run stays in memory exactly if no instruction runs off the end. If one does, this shows in the
program counter, in the record of a fault and in the trace, but no program observes it: the run is
like one that is held in memory.

## Main definitions

* `Chip8.Instruction.RunsOff` — an instruction goes on behind the end of memory.
* `Chip8.Instruction.Redirects` — an instruction does not go on from where it stands.
* `Chip8.Machine.InMemory` — the program counter is an address of memory.
* `Chip8.Machine.folded`, `Chip8.Machine.afterFolded` — a machine with its program counter folded
  into memory, and a run that folds it after each action.
* `Chip8.Machine.Roams` — where the program counter of a run goes, and what comes of it.

## Main results

* `Chip8.Machine.inMemory_step` — a cycle leaves memory exactly if its instruction runs off the end.
* `Chip8.Machine.alike_afterFolded` — no program observes that its run leaves memory.
* `Chip8.Machine.roams_of_run` — where the program counter of every run goes.
-/

namespace Chip8

namespace Instruction

/-- An instruction goes on behind the end of memory: from the last word, or with a skip from the
word before. -/
def RunsOff (s : Machine) : Instruction → Prop
  | .jump _ | .call _ | .ret | .jumpOffset _ => False
  | .awaitKey _ => (s.awaitingKey = true ∧ s.lastKey ≠ none) ∧ 4094 ≤ s.pc.toNat
  | i => 4094 ≤ s.pc.toNat ∨ i.Skips s ∧ 4092 ≤ s.pc.toNat

/-- An instruction does not go on from where it stands: a jump, a call or a return. -/
def Redirects : Instruction → Prop
  | .jump _ | .call _ | .ret | .jumpOffset _ => True
  | _ => False

end Instruction

namespace Machine

/-! ## Cycles at the end of memory -/

/-- The program counter is an address of memory. -/
def InMemory (s : Machine) : Prop :=
  s.pc.toNat < 4096

section

variable {s : Machine} {i : Instruction} {n : ℕ}

/-- Jumps, calls and returns go on in memory. -/
lemma lt_of_redirects (hstack : ∀ a ∈ s.stack.addresses, a < 4096) (hi : i.Redirects)
    (hn : i.successor? s = some n) : n < 4096 := by
  cases i with
  | jump target | call target =>
    cases hn
    exact target.isLt
  | ret => exact hstack n (List.mem_of_getLast? hn)
  | jumpOffset target =>
    cases hn
    exact Nat.mod_lt _ (by decide)
  | _ => exact hi.elim

lemma not_runsOff_of_redirects (hi : i.Redirects) : ¬i.RunsOff s := by
  cases i with
  | jump | call | ret | jumpOffset => exact not_false
  | _ => exact hi.elim

lemma bytesOn_eq (hs : s.InMemory) (hn : n ≤ 4) : s.bytesOn n = s.pc.toNat + n := by
  have hlt : s.pc.toNat < 4096 := hs
  exact Nat.mod_eq_of_lt (by omega)

/-- Any other instruction goes on in memory unless it runs off the end, and it does not run far. -/
lemma lt_iff_of_not_redirects (hs : s.InMemory) (hi : ¬i.Redirects)
    (hn : i.successor? s = some n) : (n < 4096 ↔ ¬i.RunsOff s) ∧ n < 4100 := by
  have hlt : s.pc.toNat < 4096 := hs
  cases i with
  | jump | call | ret | jumpOffset => exact absurd trivial hi
  | awaitKey x =>
    cases hn
    show (_ < 4096 ↔ ¬((s.awaitingKey = true ∧ s.lastKey ≠ none) ∧ 4094 ≤ s.pc.toNat)) ∧ _
    by_cases hfound : s.awaitingKey = true ∧ s.lastKey ≠ none
    · rw [if_pos hfound, bytesOn_eq hs (by decide), and_iff_right hfound]
      omega
    · rw [if_neg hfound]
      exact ⟨iff_of_true hlt fun h => hfound h.1, by omega⟩
  | _ =>
    -- a skip or an instruction that moves on, which is a skip without its condition
    cases hn
    show (_ < 4096 ↔ ¬(4094 ≤ s.pc.toNat ∨ Instruction.Skips s _ ∧ 4092 ≤ s.pc.toNat)) ∧ _
    split
    case isTrue hskips =>
      rw [bytesOn_eq hs (by decide), and_iff_right hskips]
      omega
    case isFalse hskips =>
      rw [bytesOn_eq hs (by decide), or_iff_left fun h => hskips h.1]
      omega

/-- **A cycle leaves memory exactly if its instruction runs off the end**, and it does not leave it
far behind. -/
theorem inMemory_step (hstack : ∀ a ∈ s.stack.addresses, a < 4096) (hs : s.InMemory) :
    (s.step.InMemory ↔ ∀ i ∈ s.performed?, ¬i.RunsOff s) ∧ s.step.pc.toNat < 4100 := by
  cases hi : s.performed? with
  | none =>
    have hstays : s.step.InMemory := by
      rw [step_of_performed?_eq_none hi]
      exact hs
    exact ⟨iff_of_true hstays (by simp), hstays.trans (by decide)⟩
  | some i =>
    have hn := successor?_of_performed hi
    simp only [Option.mem_def, Option.some.injEq, forall_eq']
    by_cases hredirects : i.Redirects
    · have hback : s.step.InMemory := lt_of_redirects hstack hredirects hn
      exact ⟨iff_of_true hback (not_runsOff_of_redirects hredirects), hback.trans (by decide)⟩
    · exact lt_iff_of_not_redirects hs hredirects hn

end

end Machine

/-! ## Program counters folded into memory -/

/-- A record with its program counter folded into memory. -/
def FaultRecord.folded (r : FaultRecord) : FaultRecord :=
  { r with pc := r.pc % 4096 }

/-- An address is the same if it is folded into memory. -/
lemma SameAddress.folded {a b : UInt16} (h : SameAddress a b) : SameAddress (a % 4096) b := by
  unfold SameAddress at h ⊢
  rw [UInt16.toNat_mod, h]
  exact (Nat.mod_mod _ _).symm

namespace Machine

/-- A machine with its program counter, and that of a fault on record, folded into memory. -/
def folded (s : Machine) : Machine :=
  { s with pc := s.pc % 4096, fault := s.fault.map FaultRecord.folded }

lemma inMemory_folded (s : Machine) : s.folded.InMemory := by
  show (s.pc % 4096).toNat < 4096
  rw [UInt16.toNat_mod]
  exact Nat.mod_lt _ (by decide)

lemma Alike.refl (s : Machine) : s.Alike s := by
  constructor
  case fault =>
    cases s.fault with
    | none => exact .none
    | some r => exact .some ⟨rfl, rfl, rfl⟩
  all_goals rfl

/-- No program observes that a machine is folded into memory. -/
lemma Alike.folded {s s' : Machine} (h : s.Alike s') : s.folded.Alike s' := by
  refine { h with pc := h.pc.folded, fault := ?_ }
  have hfault := h.fault
  show Option.Rel FaultRecord.Alike (s.fault.map FaultRecord.folded) s'.fault
  generalize s.fault = fault, s'.fault = fault' at hfault
  cases hfault with
  | none => exact .none
  | some hrecord => exact .some ⟨hrecord.trap, hrecord.opcode, hrecord.pc.folded⟩

/-- A machine after a list of actions, each of them followed by folding it into memory. -/
def afterFolded (s : Machine) (actions : List Action) : Machine :=
  actions.foldl (fun m action => (m.act action).folded) s

lemma afterFolded_concat (s : Machine) (actions : List Action) (action : Action) :
    s.afterFolded (actions ++ [action]) = ((s.afterFolded actions).act action).folded := by
  rw [afterFolded, List.foldl_append]
  rfl

/-- **No program observes that its run leaves memory**: the run is like one that stays there.

**Proof sketch.** By induction on the run. An action keeps machines alike, and so does folding one
of them. -/
theorem alike_afterFolded {s : Machine} (hs : s.InMemory) (actions : List Action) :
    (s.afterFolded actions).InMemory ∧ (s.afterFolded actions).Alike (s.after actions) := by
  induction actions using List.reverseRecOn with
  | nil => exact ⟨hs, .refl s⟩
  | append_singleton actions action ih =>
    rw [afterFolded_concat, after_concat]
    exact ⟨inMemory_folded _, (ih.2.act action).folded⟩

/-! ## Where the program counter goes -/

/-- A run of cycles only. -/
lemma after_replicate_step (s : Machine) (n : ℕ) :
    s.after (List.replicate n .step) = s.runSteps n := by
  induction n with
  | zero => rfl
  | succ n ih =>
    rw [List.replicate_succ', after_concat, ih]
    rfl

/-- Where the program counter of a run goes, and what comes of it. -/
structure Roams (start : Machine) (actions : List Action) : Prop where
  /-- It stays in memory throughout exactly if no cycle performs an instruction that runs off the
  end. -/
  inMemory_iff : (∀ part, part <+: actions → (start.after part).InMemory) ↔
    ∀ m ∈ start.cycleStarts actions, ∀ i ∈ m.performed?, ¬i.RunsOff m
  /-- A cycle that takes it out of memory takes it less than two words past the end. -/
  near : ∀ m ∈ start.cycleStarts actions, m.InMemory → m.step.pc.toNat < 4100
  /-- A jump, a call or a return takes it back into memory, wherever it was. -/
  back : ∀ m ∈ start.cycleStarts actions, ∀ i ∈ m.performed?, i.Redirects → m.step.InMemory
  /-- A fault is put on record with the program counter of the machine. -/
  faultPc : ∀ part, part <+: actions →
    (start.after part).faultPc = if (start.after part).isFaulted then (start.after part).pc else 0
  /-- What a frame attempts and traces are machines of a run that goes on with cycles. -/
  attempts : ∀ part, part <+: actions → ∀ n, ∀ m ∈ (start.after part).attempts n,
    ∃ k, m = start.after (part ++ List.replicate k .step)
  /-- No program observes any of this: the run is like one that is held in memory. -/
  alike : (start.afterFolded actions).InMemory ∧
    (start.afterFolded actions).Alike (start.after actions)

section

variable {start : Machine} {actions : List Action}

/-- The return addresses of a run are addresses of memory. -/
lemma lt_of_mem_addresses (hstack : start.stack.Holds start.stack.addresses) :
    ∀ m ∈ start.cycleStarts actions, ∀ a ∈ m.stack.addresses, a < 4096 := by
  intro m hm
  obtain ⟨part, -, rfl⟩ := mem_cycleStarts_iff.mp hm
  exact (lasting_holds.after hstack part).bound

/-- A run stays in memory exactly if no cycle of it runs off the end. -/
lemma after_inMemory_iff (hs : start.InMemory)
    (hstack : ∀ m ∈ start.cycleStarts actions, ∀ a ∈ m.stack.addresses, a < 4096) :
    (∀ part, part <+: actions → (start.after part).InMemory) ↔
      ∀ m ∈ start.cycleStarts actions, ∀ i ∈ m.performed?, ¬i.RunsOff m := by
  constructor
  · intro hinside m hm
    obtain ⟨part, hpart, rfl⟩ := mem_cycleStarts_iff.mp hm
    -- the cycle lies between two parts of the run, and both end in memory
    have hbefore := hinside part ((List.prefix_append part [.step]).trans hpart)
    have hafter := hinside _ hpart
    rw [after_concat] at hafter
    exact (inMemory_step (hstack _ hm) hbefore).1.mp hafter
  · intro hnever part hpart
    refine after_of_cycleStarts (fun s action haction hs => ?_) (fun m hm hs => ?_) hs hpart
    · rw [s.act_eq_of_ne_step haction]
      exact hs
    · exact (inMemory_step (hstack m hm) hs).1.mpr (hnever m hm)

/-- The program counter on record is that of the machine, as long as the record is justified. -/
lemma faultPc_eq {s : Machine} (h : ∀ r, s.fault = some r → s.Justified r) :
    s.faultPc = if s.isFaulted then s.pc else 0 := by
  unfold Machine.faultPc isFaulted
  cases hr : s.fault with
  | none => rfl
  | some r => exact (h r hr).pc

/-- Where the program counter of a run goes that begins in memory, without a fault, and with return
addresses on the stack. -/
lemma roams_of_inMemory (hs : start.InMemory) (hfault : start.fault = none)
    (hstack : start.stack.Holds start.stack.addresses) : start.Roams actions where
  inMemory_iff := after_inMemory_iff hs (lt_of_mem_addresses hstack)
  near m hm hin := (inMemory_step (lt_of_mem_addresses hstack m hm) hin).2
  back m hm i hi hredirects :=
    lt_of_redirects (lt_of_mem_addresses hstack m hm) hredirects (successor?_of_performed hi)
  faultPc part _ := by
    refine faultPc_eq (lasting_justified.after (fun r hr => ?_) part)
    cases hfault.symm.trans hr
  attempts part _ n m hm := by
    obtain ⟨k, -, rfl⟩ := List.mem_map.mp hm
    exact ⟨k, by rw [after_append, after_replicate_step]⟩
  alike := alike_afterFolded hs actions

end

/-- **Where the program counter of every run goes**, of every program that fits, whatever cycles,
periods of the timers and keys come in which order.

**Proof sketch.** The return addresses on the stack are addresses of memory in every run, so a cycle
leaves memory only with an instruction that runs off its end, and nothing but cycles moves the
program counter. A record is justified in every run, and what comes of a run that leaves memory is
not observed by `alike_afterFolded`. -/
theorem roams_of_run (key : RandomKey) (rom : List UInt8) (hrom : rom.length ≤ romCapacity)
    (actions : List Action) :
    ∃ start, (new key).loadRom rom = .ok start ∧ start.Roams actions := by
  have hpc : programStart < 4096 := by decide
  exact ⟨_, loadRom_eq_ok _ hrom, roams_of_inMemory hpc rfl CallStack.holds_empty⟩

/-- A program that stores a jump at the beginning of memory and a word at its end, and jumps to that
word. The cycle after the jump leaves memory, and the next one finds the jump there and comes
back. -/
theorem roams_of_run_around_end :
    let rom := [0x60, 0x60, 0xAF, 0xFE, 0xF0, 0x55, 0x60, 0x12, 0x61, 0x00, 0xA0, 0x00, 0xF1, 0x55,
      0x1F, 0xFE]
    rom.length ≤ romCapacity ∧
      ∃ start, (new ⟨0, 0⟩).loadRom rom = .ok start ∧ start.Roams (List.replicate 10 .step) ∧
        (start.after (List.replicate 9 .step)).pc = 0x1000 ∧
        (start.after (List.replicate 10 .step)).pc = 0x200 := by
  intro rom
  obtain ⟨start, hload, hroams⟩ := roams_of_run ⟨0, 0⟩ rom (by decide) (List.replicate 10 .step)
  refine ⟨by decide, start, hload, hroams, ?_⟩
  obtain rfl := Except.ok.inj ((loadRom_eq_ok _ (by decide)).symm.trans hload)
  decide +kernel

/-- A program that stores a word at the end of memory and jumps to it. The fifth cycle leaves memory
without a fault, a frame attempts and traces a cycle there, and that cycle puts a fault on record at
an address that memory does not have. -/
theorem exists_run_past_end :
    ∃ start, (new ⟨0, 0⟩).loadRom [0x60, 0x60, 0xAF, 0xFE, 0xF0, 0x55, 0x1F, 0xFE] = .ok start ∧
      let past := start.after (List.replicate 5 .step)
      past.fault = none ∧ past.pc.toNat = 4096 ∧ past ∈ past.attempts 1 ∧
        past.step.faultCode = Trap.undefinedOpcode.code ∧ past.step.faultPc.toNat = 4096 := by
  refine ⟨_, loadRom_eq_ok _ (by decide), ?_⟩
  intro past
  have hruns : past.step.isFaulted = true ∧ past.fault = none ∧ past.pc.toNat = 4096 ∧
      past.step.faultCode = Trap.undefinedOpcode.code ∧ past.step.faultPc.toNat = 4096 := by
    decide +kernel
  obtain ⟨hstops, hhealthy, hpc, hfault⟩ := hruns
  refine ⟨hhealthy, hpc, ?_, hfault⟩
  rw [attempts_of_stops hstops 0]
  exact List.mem_singleton_self past

end Machine

end Chip8
