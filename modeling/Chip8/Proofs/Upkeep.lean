import Chip8.Proofs.SessionFrame
import Chip8.Proofs.Ticks

set_option autoImplicit false

/-!
# What a session keeps

Events, frames and the passing of time change the machine of a session, its clock and its counters,
and add records to its journal. They leave alone what the session was set up with, the clock of the
journal and the failures in it, and as long as that clock can be read no report is kept from being
told.

A frame makes as many ticks as come before the first reason to end it: the frame is full, the
machine waits for a key, or the next cycle would stop it.

## Main definitions

* `Chip8.Session.Upkeep` — what everything in a session leaves alone.
* `Chip8.Session.Sound` — the machine of a session runs, and stands on the instruction that waits if
  it waits.
* `Chip8.Machine.EndsFrame`, `Chip8.Machine.frameTicks`, `Chip8.Machine.StopsFrame` — why a frame
  ends, how many ticks it makes, and whether a fault ends it.

## Main results

* `Chip8.Session.runFrame_spec` — what a frame makes of a session.
-/

namespace Chip8

/-! ## Reports -/

namespace Journal

/-- As long as the clock can be read, no report is kept from being told but that of the end. -/
lemma hindrance?_of_ne_sessionEnd {j : Journal} (h : j.Reads) {call : Call}
    (hend : ∀ cycles, call ≠ .sessionEnd cycles) : j.hindrance? call = none := by
  rw [hindrance?_of_reads h]
  cases call with
  | sessionEnd cycles => exact absurd rfl (hend cycles)
  | _ => rfl

end Journal

namespace Session

/-! ## What is left alone -/

/-- What everything that happens in a session leaves alone, the end and failures apart. -/
structure Upkeep (s s' : Session) : Prop where
  /-- What the session was set up with is the same. -/
  setting : s' = { s with
    machine := s'.machine
    cycles := s'.cycles
    clock := s'.clock
    journal := s'.journal
    hindrance := s'.hindrance }
  /-- The journal has only further records, and other readings of its clock are to come. -/
  journal : s'.journal = { s.journal with
    clock := s'.journal.clock
    records := s'.journal.records }
  /-- The readings are some of those that were to come before. -/
  clock : ∃ looks, ∀ n, s'.journal.clock n = s.journal.clock (n + looks)
  /-- As long as it can be read, no report was kept from being told. -/
  told : s.journal.Reads → s'.hindrance = s.hindrance

namespace Upkeep

variable {s s' s'' : Session}

lemma fresh_eq (h : Upkeep s s') : s'.fresh = s.fresh := by rw [h.setting]

lemma perFrame_eq (h : Upkeep s s') : s'.perFrame = s.perFrame := by rw [h.setting]

/-- A clock that can be read still can. -/
lemma reads (h : Upkeep s s') (hreads : s.journal.Reads) : s'.journal.Reads := by
  obtain ⟨looks, hclock⟩ := h.clock
  intro n
  rw [hclock]
  exact hreads _

/-- What is left alone twice is left alone. -/
lemma trans (h : Upkeep s s') (h' : Upkeep s' s'') : Upkeep s s'' where
  setting := by rw [h'.setting, h.setting]
  journal := by rw [h'.journal, h.journal]
  clock := by
    obtain ⟨looks, hclock⟩ := h.clock
    obtain ⟨looks', hclock'⟩ := h'.clock
    exact ⟨looks' + looks, fun n => by rw [hclock', hclock, Nat.add_assoc]⟩
  told hreads := (h'.told (h.reads hreads)).trans (h.told hreads)

end Upkeep

/-- What has another machine, another count or another clock is left alone otherwise. -/
lemma upkeep_moved (s : Session) (machine : Machine) (cycles : ℕ) (clock : ℤ) :
    Upkeep s { s with machine, cycles, clock } :=
  ⟨rfl, rfl, ⟨0, fun _ => rfl⟩, fun _ => rfl⟩

/-- A report leaves alone what is in a session, unless it is about a failure or the end. -/
lemma upkeep_report (s : Session) {call : Journal.Call} (hfailures : call.failures = [])
    (hend : ∀ cycles, call ≠ .sessionEnd cycles) : Upkeep s (s.report call) where
  setting := rfl
  journal := s.journal.perform_of_failures_eq_nil hfailures
  clock := ⟨call.looks, fun _ => rfl⟩
  told hreads := hindrance_report (Journal.hindrance?_of_ne_sessionEnd hreads hend)

/-- The instructions of a frame leave alone what is in a session. -/
lemma upkeep_execute (s : Session) (n : ℕ) : Upkeep s (s.execute n).1 := by
  induction n generalizing s with
  | zero => exact s.upkeep_moved _ _ _
  | succ n ih =>
    have htrace : Upkeep s s.trace := s.upkeep_report rfl fun cycles h => by cases h
    rw [execute]
    split
    · exact s.upkeep_moved _ _ _
    · dsimp only
      split
      · exact htrace
      · exact htrace.trans ((upkeep_moved _ _ _ _).trans (ih _))

/-- Time that is added to the clock runs the timers for the whole periods in it. -/
lemma spend_eq (s : Session) (time : ℤ) :
    s.spend time = ({ s with
      machine :=
        (min ((s.clock + time) / 1000) 255).toNat.repeat Machine.decrementTimers s.machine
      clock := (s.clock + time) % 1000 }, (s.clock + time) / 1000) :=
  rfl

/-- What time makes of a session: its timers have run for some periods, and its clock is another. At
a rate of zero frames in a second the length of a frame has no measure. -/
lemma advanceTimers_eq (s : Session) (elapsed? : Option ℤ) :
    ∃ (periods : ℕ) (clock ticks : ℤ), s.advanceTimers elapsed? =
      ({ s with machine := periods.repeat Machine.decrementTimers s.machine, clock },
        if elapsed? = none ∧ s.framesPerSecond = 0 then .error .divisionByZero else .ok ticks) := by
  unfold advanceTimers
  cases elapsed? with
  | some ms =>
    simp only [spend_eq, reduceCtorEq, false_and, if_false]
    exact ⟨_, _, _, rfl⟩
  | none =>
    by_cases hzero : s.framesPerSecond = 0
    · simp only [hzero, if_true, true_and]
      exact ⟨0, s.clock, 0, by rw [← hzero]; rfl⟩
    · simp only [spend_eq, hzero, if_false, and_false]
      exact ⟨_, _, _, rfl⟩

end Session

namespace Machine

/-! ## The ticks of a frame -/

/-- A frame of `n` instructions ends after `t` ticks: it is full, the machine waits for a key, or
its next cycle stops it. -/
def EndsFrame (s : Machine) (n t : ℕ) : Prop :=
  t = n ∨ (s.runSteps t).isWaiting = true ∨ (s.runSteps t).step.isFaulted = true

instance (s : Machine) (n : ℕ) : DecidablePred (s.EndsFrame n) :=
  fun _ => inferInstanceAs (Decidable (_ ∨ _ ∨ _))

lemma exists_endsFrame (s : Machine) (n : ℕ) : ∃ t, s.EndsFrame n t :=
  ⟨n, .inl rfl⟩

/-- The number of ticks in a frame of `n` instructions: as many as come before the first reason to
end it. -/
def frameTicks (s : Machine) (n : ℕ) : ℕ :=
  Nat.find (s.exists_endsFrame n)

/-- A fault ends a frame of `n` instructions: it is not full where the next cycle stops the
machine. -/
def StopsFrame (s : Machine) (n : ℕ) : Prop :=
  s.frameTicks n < n ∧ (s.runSteps (s.frameTicks n)).step.isFaulted = true

instance (s : Machine) (n : ℕ) : Decidable (s.StopsFrame n) :=
  inferInstanceAs (Decidable (_ ∧ _))

/-- The ticks of a frame are the least number after which it ends. -/
lemma isLeast_frameTicks (s : Machine) (n : ℕ) : IsLeast {t | s.EndsFrame n t} (s.frameTicks n) :=
  ⟨Nat.find_spec (s.exists_endsFrame n), fun _ ht => Nat.find_min' (s.exists_endsFrame n) ht⟩

/-- A machine that a cycle leaves as it is fills its frames. -/
lemma frameTicks_of_step_eq {s : Machine} (hstep : s.step = s) (hs : s.fault = none)
    (hwaiting : s.isWaiting = false) (n : ℕ) : s.frameTicks n = n := by
  have hends : s.EndsFrame n (s.frameTicks n) := (s.isLeast_frameTicks n).1
  simpa [EndsFrame, runSteps_of_step_eq hstep, hstep, hwaiting, isFaulted, hs] using hends

/-- The ticks of a frame leave the machine running. -/
lemma fault_runSteps_frameTicks {s : Machine} (hs : s.fault = none) (n : ℕ) :
    (s.runSteps (s.frameTicks n)).fault = none := by
  cases hk : s.frameTicks n with
  | zero => exact hs
  | succ k =>
    have hlt : k < Nat.find (s.exists_endsFrame n) := Nat.lt_of_succ_le hk.ge
    have hgoes : (s.runSteps k).step.isFaulted ≠ true := fun h =>
      Nat.find_min (s.exists_endsFrame n) hlt (.inr (.inr h))
    rwa [isFaulted, ne_eq, Option.not_isSome_iff_eq_none] at hgoes

/-- The ticks of a frame succeed. -/
lemma ticks_frameTicks {s : Machine} (hs : s.fault = none) (n : ℕ) :
    s.ticks (s.frameTicks n) = .ok (s.runSteps (s.frameTicks n)) :=
  (ticks_eq_ok_iff hs).mpr ⟨rfl, fault_runSteps_frameTicks hs n⟩

/-- The fault that is reported of a machine that a trap is about to stop. -/
def faultOn (s : Machine) (trap : Trap) : Fault :=
  { kind := .trapped trap, opcode := s.nextWord.toNat, pc := s.pc.toNat }

/-- The fault that a cycle makes is that of a trap of the next word. -/
lemma exists_springs_of_step {s : Machine} (hs : s.fault = none) {r : FaultRecord}
    (hr : s.step.fault = some r) : ∃ trap, s.Springs trap ∧ r.report = s.faultOn trap := by
  have htrap := (springs_iff_step hs r.trap).mpr ⟨r, hr, rfl⟩
  rw [step_of_springs hs htrap] at hr
  exact ⟨r.trap, htrap, by rw [← Option.some.inj hr]; rfl⟩

/-- A machine that is about to stop does not wait for a key: it would stand on the instruction that
waits, and this springs no trap. -/
lemma awaitingKey_of_stops {s : Machine} (hs : s.Poised) (hstops : s.step.isFaulted = true) :
    s.awaitingKey = false := by
  cases hon : s.awaitingKey with
  | false => rfl
  | true =>
    obtain ⟨x, hx⟩ := hs hon
    -- whether a key has come or not, the cycle succeeds
    have hnone : s.step.fault = none := by
      cases hk : s.lastKey with
      | none => rw [step_of_awaits hx hk, hx.executes.healthy]
      | some k =>
        rw [step_of_latched hx hk]
        exact hx.executes.healthy
    rw [isFaulted, hnone] at hstops
    cases hstops

end Machine

namespace Session

/-! ## Frames -/

/-- The number of cycles that the instructions of a frame go through is that of its ticks. -/
lemma Executed.eq_frameTicks {s : Session} {n k : ℕ} {result : Session × Option Fault}
    (h : Executed s n k result) : k = s.machine.frameTicks n := by
  have hends : s.machine.EndsFrame n k ∧ k ≤ n := by
    have hended := h.ended
    generalize result.2 = fault? at hended
    cases hended with
    | full hfull => exact ⟨.inl hfull, hfull.le⟩
    | waiting hlt hwaiting => exact ⟨.inr (.inl hwaiting), hlt.le⟩
    | faulted hlt hwaiting r hr =>
      have hstops : (s.machine.runSteps k).step.fault = some r := hr
      exact ⟨.inr (.inr (by rw [Machine.isFaulted, hstops]; rfl)), hlt.le⟩
  refine ((Nat.find_eq_iff _).mpr ⟨hends.1, fun j hj => ?_⟩).symm
  -- no earlier cycle was a reason to end
  obtain ⟨hwaiting, hgoes⟩ := h.proceeds j hj
  have hruns : (s.machine.runSteps j).step.fault = none := hgoes
  rintro (hfull | hwaits | hstops)
  · omega
  · rw [hwaiting] at hwaits
    cases hwaits
  · rw [Machine.isFaulted, hruns] at hstops
    cases hstops

/-- A session after some ticks: only its machine and its count are others, and instructions may have
been told. -/
structure Ticked (s : Session) (k : ℕ) (s' : Session) : Prop extends Upkeep s s' where
  /-- The machine has made the ticks, they are counted, and nothing else is new but reports. -/
  moved : s' = { s with
    machine := s.machine.runSteps k
    cycles := s.cycles + k
    journal := s'.journal
    hindrance := s'.hindrance }

/-- The instructions of a frame are its ticks. -/
lemma ticked_execute (s : Session) (n : ℕ) :
    Ticked s (s.machine.frameTicks n) (s.execute n).1 := by
  obtain ⟨k, hk⟩ := s.execute_spec n
  have hupkeep := s.upkeep_execute n
  refine ⟨hupkeep, ?_⟩
  rw [← hk.eq_frameTicks, ← hk.machine, ← hk.cycles, ← hk.pace.clock]
  exact hupkeep.setting

/-- A session whose machine runs, and stands on the instruction that waits if it waits. -/
structure Sound (s : Session) : Prop where
  /-- The machine to begin anew with runs. -/
  freshHealthy : s.fresh.fault = none
  /-- It does not wait. -/
  freshIdle : s.fresh.awaitingKey = false
  /-- The machine runs. -/
  healthy : s.machine.fault = none
  /-- It stands on the instruction that waits, if it waits. -/
  poised : s.machine.Poised

/-- **What a frame makes of a session.** The machine makes the ticks of the frame. If a fault ends
it, the session is left there, and the fault is that of the trap which is about to stop the machine.
Otherwise time passes, unless it has no measure.

**Proof sketch.** The cycles that the instructions of a frame go through are its ticks, and the
reason for which they ended tells the two cases apart: a fault is one, and where the frame is full
or the machine waits the next cycle does not count. -/
theorem runFrame_spec {s : Session} (hs : s.Sound) (elapsed? : Option ℤ) :
    ∃ executed, Ticked s (s.machine.frameTicks s.perFrame.toNat) executed ∧
      if s.machine.StopsFrame s.perFrame.toNat then
        ∃ trap, executed.machine.Springs trap ∧ executed.machine.awaitingKey = false ∧
          s.runFrame elapsed? = (executed, some (.fault (executed.machine.faultOn trap)))
      else
        s.runFrame elapsed? = ((executed.advanceTimers elapsed?).1,
          if elapsed? = none ∧ s.framesPerSecond = 0 then some .divisionByZero else none) := by
  obtain ⟨k, hk⟩ := s.execute_spec s.perFrame.toNat
  have hticked := s.ticked_execute s.perFrame.toNat
  have hticks := hk.eq_frameTicks
  cases hexecute : s.execute s.perFrame.toNat with
  | mk executed fault? =>
    rw [hexecute] at hk hticked
    refine ⟨executed, hticked, ?_⟩
    have hhealthy := hk.healthy hs.healthy
    have hpoised := hk.poised hs.poised
    have hmachine : executed.machine = s.machine.runSteps k := hk.machine
    have hended := hk.ended
    cases fault? with
    | some fault =>
      cases hended with
      | faulted hlt hwaiting r hr =>
        have hr' : executed.machine.step.fault = some r := by rw [hmachine]; exact hr
        have hstops : executed.machine.step.isFaulted = true := by
          rw [Machine.isFaulted, hr']
          rfl
        obtain ⟨trap, htrap, hreport⟩ := Machine.exists_springs_of_step hhealthy hr'
        rw [if_pos (by rw [Machine.StopsFrame, ← hticks, ← hmachine]; exact ⟨hlt, hstops⟩)]
        refine ⟨trap, htrap, Machine.awaitingKey_of_stops hpoised hstops, ?_⟩
        rw [runFrame, hexecute, hreport]
    | none =>
      have hgoes : ¬s.machine.StopsFrame s.perFrame.toNat := by
        rw [Machine.StopsFrame, ← hticks]
        rintro ⟨hlt, hstops⟩
        cases hended with
        | full hfull => omega
        | waiting _ hwaiting =>
          -- a machine that waits stays as it is, so its next cycle does not stop it
          rw [← hmachine] at hwaiting hstops
          rw [Machine.step_of_isWaiting hpoised hwaiting, Machine.isFaulted, hhealthy] at hstops
          cases hstops
      have hrate : executed.framesPerSecond = s.framesPerSecond := hk.pace.framesPerSecond
      obtain ⟨periods, clock, ticks, htimers⟩ := executed.advanceTimers_eq elapsed?
      rw [hrate] at htimers
      rw [if_neg hgoes, runFrame, hexecute]
      simp only [htimers]
      by_cases hzero : elapsed? = none ∧ s.framesPerSecond = 0
      · simp only [if_pos hzero]
      · simp only [if_neg hzero]

end Session

end Chip8
