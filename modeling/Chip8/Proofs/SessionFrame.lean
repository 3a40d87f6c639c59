import Chip8.Proofs.Frames
import Chip8.Proofs.Journals
import Chip8.Proofs.KeyWait
import Chip8.Session.Basic

set_option autoImplicit false

/-!
# Frames of a session

What the instructions of a frame make of a session: as many cycles of its machine as come before the
frame is full, the machine waits for a key, or the next cycle would stop it. They leave the pace of
the session alone, and none is kept from being told as long as the clock can be read.

## Main definitions

* `Chip8.Session.Begun` — what a session begins with.
* `Chip8.Session.SamePace` — what the instructions of a frame leave alone.
* `Chip8.Session.Ended` — why the instructions of a frame ended where they did.
* `Chip8.Session.Executed` — what the instructions of a frame make of a session.

## Main results

* `Chip8.Session.execute_spec` — the instructions of a frame are cycles of the machine.
* `Chip8.Session.Executed.eq_runSteps`, `Chip8.Session.Executed.eq_stopped` — the same cycles
  without the session end where the frame ended, but for the record of a fault.
-/

namespace Chip8

/-! ## Reports on instructions -/

namespace Journal

/-- Instructions can be told: the threshold keeps them out, or no time is shown with them, or the
clock can be read. -/
def TellsInstructions (j : Journal) : Prop :=
  j.style.threshold.admits Level.debug.name = false ∨ j.style.timestamps = false ∨ j.Reads

/-- A journal whose threshold keeps instructions out needs no clock for them. -/
lemma tellsInstructions_of_threshold {j : Journal}
    (h : j.style.threshold.admits Level.debug.name = false) : j.TellsInstructions :=
  .inl h

/-- Nothing keeps the report of an instruction from being told that can be told. -/
lemma TellsInstructions.hindrance? {j : Journal} (h : j.TellsInstructions) (pc word : ℤ) :
    j.hindrance? (.instruction pc word) = none := by
  rcases h with hquiet | htimeless | hreads
  · exact if_neg (by rw [show (Call.instruction pc word).level = Level.debug.name from rfl, hquiet,
      Bool.false_and]; exact Bool.false_ne_true)
  · have hlines : ((Call.instruction pc word).records j.clock).all j.hasLine = true :=
      List.all_eq_true.mpr fun record _ => by rw [hasLine, htimeless, Bool.not_false, Bool.true_or]
    exact if_neg (by rw [hlines, Bool.not_true, Bool.and_false]; exact Bool.false_ne_true)
  · exact hindrance?_of_reads hreads _

/-- Whether instructions can be told does not depend on what was told before. -/
lemma TellsInstructions.perform {j : Journal} (h : j.TellsInstructions) (call : Call) :
    (j.perform call).TellsInstructions :=
  h.imp_right fun h => h.imp_right fun hreads => hreads.perform call

end Journal

namespace Session

/-- What a session keeps of the first report that was not told is the same if another one is told.
-/
lemma hindrance_report {s : Session} {call : Journal.Call} (h : s.journal.hindrance? call = none) :
    (s.report call).hindrance = s.hindrance := by
  show (s.hindrance <|> s.journal.hindrance? call) = s.hindrance
  rw [h]
  cases s.hindrance <;> rfl

/-! ## The beginning of a session -/

/-- What a session begins with. -/
structure Begun (options : Options) (journal : Journal) (s : Session) : Prop where
  /-- The machine is the one that is loaded with the program. -/
  machine : Machine.boot options.seed options.rom = .ok s.machine
  /-- The number of instructions in a frame is that of the options. -/
  perFrame : s.perFrame = options.perFrame
  /-- The number of frames in a second is that of the options. -/
  framesPerSecond : s.framesPerSecond = options.framesPerSecond
  /-- No time has passed. -/
  clock : s.clock = 0
  /-- The journal is the given one. -/
  journal : s.journal = journal
  /-- Nothing kept a report from being told. -/
  hindrance : s.hindrance = none

/-- A session that begins has looked up its palette and loaded its machine, and nothing has happened
in it. -/
lemma exists_of_start {options : Options} {journal : Journal} {s : Session}
    (h : start options journal = .ok s) :
    ∃ palette fresh, Palette.find options.palette = .ok palette ∧
      Machine.boot options.seed options.rom = .ok fresh ∧
      s = { fresh, machine := fresh, palette, scale := options.scale, perFrame := options.perFrame
            framesPerSecond := options.framesPerSecond, cycles := 0, clock := 0, journal
            hindrance := none } := by
  unfold start at h
  cases hpalette : Palette.find options.palette with
  | error error =>
    rw [hpalette] at h
    cases h
  | ok palette =>
    cases hboot : Machine.boot options.seed options.rom with
    | error error =>
      rw [hpalette, hboot] at h
      cases h
    | ok fresh =>
      rw [hpalette, hboot] at h
      cases h
      exact ⟨palette, fresh, rfl, rfl, rfl⟩

/-- What a session begins with, piece by piece. -/
lemma begun_of_start {options : Options} {journal : Journal} {s : Session}
    (h : start options journal = .ok s) : Begun options journal s := by
  obtain ⟨palette, fresh, -, hboot, rfl⟩ := exists_of_start h
  exact ⟨hboot, rfl, rfl, rfl, rfl, rfl⟩

/-! ## The pace of a session -/

/-- The pace of a session, and whether its reports are told, are the same in two sessions. -/
structure SamePace (s s' : Session) : Prop where
  /-- The number of instructions in a frame is the same. -/
  perFrame : s'.perFrame = s.perFrame
  /-- The number of frames in a second is the same. -/
  framesPerSecond : s'.framesPerSecond = s.framesPerSecond
  /-- The time not yet spent is the same. -/
  clock : s'.clock = s.clock
  /-- If instructions can be told, they still can, and no report was kept from being told. -/
  tells : s.journal.TellsInstructions →
    s'.journal.TellsInstructions ∧ s'.hindrance = s.hindrance

/-- A session has the pace of itself with another machine and another count of cycles. -/
lemma samePace_moved (s : Session) (machine : Machine) (cycles : ℕ) :
    SamePace s { s with machine, cycles } :=
  ⟨rfl, rfl, rfl, fun h => ⟨h, rfl⟩⟩

/-- Sessions before and after one of the same pace have the same pace. -/
lemma SamePace.trans {s s' s'' : Session} (h : SamePace s s') (h' : SamePace s' s'') :
    SamePace s s'' where
  perFrame := h'.perFrame.trans h.perFrame
  framesPerSecond := h'.framesPerSecond.trans h.framesPerSecond
  clock := h'.clock.trans h.clock
  tells htells := by
    obtain ⟨htells', hsame⟩ := h.tells htells
    obtain ⟨htells'', hsame'⟩ := h'.tells htells'
    exact ⟨htells'', hsame'.trans hsame⟩

/-- The report of an instruction does not change the pace. -/
lemma samePace_trace (s : Session) : SamePace s s.trace where
  perFrame := rfl
  framesPerSecond := rfl
  clock := rfl
  tells htells := ⟨htells.perform _, hindrance_report (htells.hindrance? _ _)⟩

/-! ## The instructions of a frame -/

/-- Why the instructions of a frame of length `n` ended after `k` cycles of a machine, and with
which fault. -/
inductive Ended (s : Machine) (n k : ℕ) : Option Fault → Prop where
  /-- The frame is full. -/
  | full (h : k = n) : Ended s n k none
  /-- The machine waits for a key. -/
  | waiting (h : k < n) (hwaiting : (s.runSteps k).isWaiting = true) : Ended s n k none
  /-- The next cycle stops the machine. -/
  | faulted (h : k < n) (hwaiting : (s.runSteps k).isWaiting = false) (r : FaultRecord)
      (hr : (s.runSteps (k + 1)).fault = some r) : Ended s n k (some r.report)

/-- The instructions of a frame of length `n` ended after `k` cycles of the machine of a session. -/
structure Executed (s : Session) (n k : ℕ) (result : Session × Option Fault) : Prop where
  /-- The machine has gone through these cycles. -/
  machine : result.1.machine = s.machine.runSteps k
  /-- The cycles are counted. -/
  cycles : result.1.cycles = s.cycles + k
  /-- No earlier cycle was a reason to end. -/
  proceeds : ∀ j < k,
    (s.machine.runSteps j).isWaiting = false ∧ (s.machine.runSteps (j + 1)).fault = none
  /-- The pace of the session is the same. -/
  pace : SamePace s result.1
  /-- There was a reason to end here. -/
  ended : Ended s.machine n k result.2

/-- A reason to end after the first cycle is one to end in the whole frame. -/
lemma Ended.succ {s : Machine} {n k : ℕ} {fault? : Option Fault} (h : Ended s.step n k fault?) :
    Ended s (n + 1) (k + 1) fault? := by
  cases h with
  | full h => exact .full (by rw [h])
  | waiting h hwaiting =>
    exact .waiting (Nat.succ_lt_succ h) (by rwa [Machine.runSteps_succ])
  | faulted h hwaiting r hr =>
    exact .faulted (Nat.succ_lt_succ h) (by rwa [Machine.runSteps_succ]) r
      (by rwa [Machine.runSteps_succ])

/-- **The instructions of a frame are cycles of the machine**, as many as come before the first
reason to end.

**Proof sketch.** By induction on the length of the frame, along the recursion of `execute`. -/
theorem execute_spec (s : Session) (n : ℕ) : ∃ k, Executed s n k (s.execute n) := by
  induction n generalizing s with
  | zero =>
    exact ⟨0, rfl, rfl, fun j hj => absurd hj (Nat.not_lt_zero j), s.samePace_moved _ _, .full rfl⟩
  | succ n ih =>
    rw [execute]
    cases hwaiting : s.machine.isWaiting with
    | true =>
      exact ⟨0, rfl, rfl, fun j hj => absurd hj (Nat.not_lt_zero j), s.samePace_moved _ _,
        .waiting (Nat.succ_pos n) hwaiting⟩
    | false =>
      rw [if_neg Bool.false_ne_true]
      rcases s.machine.tick_cases with ⟨r, hr, htick⟩ | ⟨hhealthy, htick⟩
      · have htick' : s.trace.machine.tick = .error r.report := htick
        simp only [htick']
        exact ⟨0, rfl, rfl, fun j hj => absurd hj (Nat.not_lt_zero j), s.samePace_trace,
          .faulted (Nat.succ_pos n) hwaiting r hr⟩
      · have htick' : s.trace.machine.tick = .ok s.machine.step := htick
        simp only [htick']
        obtain ⟨k, hk⟩ :=
          ih { s.trace with machine := s.machine.step, cycles := s.trace.cycles + 1 }
        refine ⟨k + 1, ?_, ?_, ?_, ?_, hk.ended.succ⟩
        · rw [hk.machine, Machine.runSteps_succ]
        · rw [hk.cycles]
          show s.cycles + 1 + k = s.cycles + (k + 1)
          omega
        · intro j hj
          cases j with
          | zero => exact ⟨hwaiting, hhealthy⟩
          | succ j =>
            have := hk.proceeds j (by omega)
            rwa [Machine.runSteps_succ s.machine j, Machine.runSteps_succ s.machine (j + 1)]
        · exact s.samePace_trace.trans ((s.trace.samePace_moved _ _).trans hk.pace)

namespace Executed

variable {s s' : Session} {n k : ℕ}

/-- The machine that a session keeps has not stopped. -/
lemma healthy {fault? : Option Fault} (h : Executed s n k (s', fault?))
    (hs : s.machine.fault = none) : s'.machine.fault = none := by
  rw [h.machine]
  cases k with
  | zero => exact hs
  | succ k => exact (h.proceeds k (Nat.lt_succ_self k)).2

/-- The machine that a session keeps is poised. -/
lemma poised {fault? : Option Fault} (h : Executed s n k (s', fault?)) (hs : s.machine.Poised) :
    s'.machine.Poised := by
  rw [h.machine]
  exact hs.runSteps k

/-- A frame that ends well leaves the machine where as many cycles as the frame is long would: those
that a waiting machine was spared do nothing. -/
theorem eq_runSteps (h : Executed s n k (s', none)) (hs : s.machine.Poised) :
    s'.machine = s.machine.runSteps n := by
  rw [h.machine]
  cases h.ended with
  | full hfull => rw [hfull]
  | waiting hlt hwaiting =>
    obtain ⟨m, rfl⟩ := Nat.exists_eq_add_of_lt hlt
    rw [Nat.add_assoc, Machine.runSteps_add,
      Machine.runSteps_of_step_eq (Machine.step_of_isWaiting (hs.runSteps k) hwaiting)]

/-- A frame that a fault ends leaves the machine where as many cycles as the frame is long would,
but for the record of the fault. -/
theorem eq_stopped {fault : Fault} (h : Executed s n k (s', some fault))
    (hs : s.machine.fault = none) :
    ∃ r : FaultRecord, fault = r.report ∧
      s.machine.runSteps n = { s'.machine with fault := some r } := by
  have hhealthy := h.healthy hs
  rw [h.machine] at hhealthy ⊢
  cases h.ended with
  | faulted hlt hwaiting r hr =>
    refine ⟨r, rfl, ?_⟩
    obtain ⟨m, rfl⟩ := Nat.exists_eq_add_of_lt hlt
    -- the cycle after the kept machine stops it, and the others do nothing
    have hstop : s.machine.runSteps (k + 1) = { s.machine.runSteps k with fault := some r } :=
      Machine.step_eq_of_stops hhealthy hr
    rw [Nat.add_right_comm, Machine.runSteps_add,
      Machine.runSteps_of_step_eq (Machine.step_of_fault hr), hstop]

end Executed

end Session

end Chip8
