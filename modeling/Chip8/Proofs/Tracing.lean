import Chip8.Proofs.Retrying

set_option autoImplicit false

/-!
# The trace of a session

A journal at its lightest level keeps a record of each instruction that a session is about to
execute. The records come from a look at the machine that is separate from the tick which follows,
but they tell what the tick does: there is one for each tick that is attempted, the one that stops
the machine included, with the program counter and the word that the tick finds. A frame that is
spared because the machine waits for a key leaves none.

Nothing but the journal depends on what the journal keeps. Two sessions with the same options go
the same course, whatever their journals are.

## Main definitions

* `Chip8.Reply`, `Chip8.Session.reply` — what a request yields.
* `Chip8.Timed`, `Chip8.Session.answered`, `Chip8.Session.replies` — requests at readings of the
  clock, and a session and what it yielded after a list of them.
* `Chip8.Session.SameCourse` — two sessions differ in their reports only.
* `Chip8.Machine.attempts` — the machines that a frame attempts to tick.
* `Chip8.Session.Traced` — what a request adds to the trace.

## Main results

* `Chip8.Session.SameCourse.answered` — what a session does is independent of its journal.
* `Chip8.Session.records_execute` — the instructions of a frame leave a record for each attempt.
* `Chip8.Session.trace_of_start` — the trace is complete, and keeping it changes nothing else.
-/

namespace Chip8

/-! ## Replies -/

/-- What a request yields to who made it. -/
inductive Reply where
  /-- An event tells whether the session goes on. -/
  | goesOn (goesOn : Bool)
  /-- A frame raises an error or none. -/
  | raised (error? : Option Error)
  /-- The passing of time tells the number of periods, or raises an error. -/
  | periods (periods : Except Error ℤ)

/-- Whether a frame raised a fault of the machine. -/
def Reply.isFault : Reply → Bool
  | .raised (some (.fault _)) => true
  | _ => false

/-- A request with the readings of the clock from when it is made. -/
structure Timed where
  /-- The readings of the clock, one for each look at it. -/
  clock : ℕ → ℤ
  /-- The request. -/
  request : Request

namespace Session

/-- What a request yields. -/
def reply (s : Session) : Request → Reply
  | .handle event => .goesOn (s.handle event).2
  | .runFrame elapsed? => .raised (s.runFrame elapsed?).2
  | .advanceTimers elapsed? => .periods (s.advanceTimers elapsed?).2

/-- The session with other readings of the clock to come. -/
def atClock (s : Session) (clock : ℕ → ℤ) : Session :=
  { s with journal := s.journal.setClock clock }

/-- The session after a request at readings of the clock. -/
def answer (s : Session) (t : Timed) : Session :=
  (s.atClock t.clock).serve t.request

/-- The session after a list of requests. -/
def answered (s : Session) (ts : List Timed) : Session :=
  ts.foldl answer s

/-- What a list of requests yields. -/
def replies (s : Session) : List Timed → List Reply
  | [] => []
  | t :: ts => (s.atClock t.clock).reply t.request :: (s.answer t).replies ts

/-! ## The course of a session -/

/-- Two sessions differ in their reports only: in their journals, and in what kept a report from
being told. -/
def SameCourse (s s' : Session) : Prop :=
  s' = { s with journal := s'.journal, hindrance := s'.hindrance }

namespace SameCourse

variable {s s' : Session}

lemma machine_eq (h : SameCourse s s') : s'.machine = s.machine := by rw [h]

lemma perFrame_eq (h : SameCourse s s') : s'.perFrame = s.perFrame := by rw [h]

/-- Reports do not change the course. -/
lemma report (h : SameCourse s s') (call call' : Journal.Call) :
    SameCourse (s.report call) (s'.report call') := by
  rw [h]
  rfl

/-- Neither does the clock of the journal. -/
lemma atClock (h : SameCourse s s') (clock : ℕ → ℤ) :
    SameCourse (s.atClock clock) (s'.atClock clock) := by
  rw [h]
  rfl

/-- The machine and the count go on in the same way. -/
lemma moved (h : SameCourse s s') (machine : Machine) :
    SameCourse { s with machine, cycles := s.cycles + 1 }
      { s' with machine, cycles := s'.cycles + 1 } := by
  rw [h]
  rfl

/-- The instructions of a frame take the same course, whether they are told or not.

**Proof sketch.** By induction on the length of the frame, along the recursion of `execute`. -/
lemma execute (h : SameCourse s s') (n : ℕ) :
    SameCourse (s.execute n).1 (s'.execute n).1 ∧ (s'.execute n).2 = (s.execute n).2 := by
  induction n generalizing s s' with
  | zero => exact ⟨h, rfl⟩
  | succ n ih =>
    rw [Session.execute, Session.execute, h.machine_eq]
    cases s.machine.isWaiting with
    | true => exact ⟨h, rfl⟩
    | false =>
      have htraced : SameCourse s.trace s'.trace := h.report _ _
      simp only [Bool.false_eq_true, if_false, htraced.machine_eq]
      cases s.trace.machine.tick with
      | error fault => exact ⟨htraced, rfl⟩
      | ok machine => exact ih (htraced.moved machine)

/-- Time takes the same course. -/
lemma advanceTimers (h : SameCourse s s') (elapsed? : Option ℤ) :
    SameCourse (s.advanceTimers elapsed?).1 (s'.advanceTimers elapsed?).1 ∧
      (s'.advanceTimers elapsed?).2 = (s.advanceTimers elapsed?).2 := by
  rw [h]
  cases elapsed? with
  | some ms => exact ⟨rfl, rfl⟩
  | none =>
    unfold Session.advanceTimers
    dsimp only
    split <;> exact ⟨rfl, rfl⟩

/-- A frame takes the same course. -/
lemma runFrame (h : SameCourse s s') (elapsed? : Option ℤ) :
    SameCourse (s.runFrame elapsed?).1 (s'.runFrame elapsed?).1 ∧
      (s'.runFrame elapsed?).2 = (s.runFrame elapsed?).2 := by
  obtain ⟨hexecuted, hfault⟩ := h.execute s.perFrame.toNat
  unfold Session.runFrame
  rw [h.perFrame_eq]
  cases hrun : s.execute s.perFrame.toNat with | mk executed fault? =>
  cases hrun' : s'.execute s.perFrame.toNat with | mk executed' fault?' =>
  rw [hrun, hrun'] at hexecuted hfault
  cases (show fault?' = fault? from hfault)
  cases fault? with
  | some fault => exact ⟨hexecuted, rfl⟩
  | none =>
    obtain ⟨hadvanced, hperiods⟩ := hexecuted.advanceTimers elapsed?
    dsimp only at hadvanced hperiods ⊢
    cases hspent : executed.advanceTimers elapsed? with | mk advanced periods =>
    cases hspent' : executed'.advanceTimers elapsed? with | mk advanced' periods' =>
    rw [hspent, hspent'] at hadvanced hperiods
    cases (show periods' = periods from hperiods)
    cases periods <;> exact ⟨hadvanced, rfl⟩

/-- An event takes the same course. -/
lemma handle (h : SameCourse s s') (event : Event) :
    SameCourse (s.handle event).1 (s'.handle event).1 ∧
      (s'.handle event).2 = (s.handle event).2 := by
  rw [h]
  unfold Session.handle
  split
  case h_4 | h_5 => split <;> exact ⟨rfl, rfl⟩
  all_goals exact ⟨rfl, rfl⟩

/-- A request takes the same course and yields the same. -/
lemma serve (h : SameCourse s s') (request : Request) :
    SameCourse (s.serve request) (s'.serve request) ∧ s'.reply request = s.reply request := by
  cases request with
  | handle event => exact (h.handle event).imp_right (congrArg Reply.goesOn)
  | runFrame elapsed? => exact (h.runFrame elapsed?).imp_right (congrArg Reply.raised)
  | advanceTimers elapsed? => exact (h.advanceTimers elapsed?).imp_right (congrArg Reply.periods)

/-- **What a session does is independent of its journal**, in runs of any requests. -/
theorem answered (h : SameCourse s s') (ts : List Timed) :
    SameCourse (s.answered ts) (s'.answered ts) ∧ s'.replies ts = s.replies ts := by
  induction ts generalizing s s' with
  | nil => exact ⟨h, rfl⟩
  | cons t ts ih =>
    obtain ⟨hserved, hreply⟩ := (h.atClock t.clock).serve t.request
    obtain ⟨hanswered, hreplies⟩ := ih hserved
    refine ⟨hanswered, ?_⟩
    rw [replies, replies, hreply]
    exact congrArg _ hreplies

end SameCourse

end Session

/-! ## Attempts -/

namespace Machine

/-- The machines that a frame of `n` instructions attempts to tick, in order: those from which it
makes its ticks, and the one that a fault is about to stop. -/
def attempts (s : Machine) (n : ℕ) : List Machine :=
  (List.range (s.frameTicks n + if s.StopsFrame n then 1 else 0)).map s.runSteps

/-- What a tick that is attempted does: it performs the instruction of the next word, or reports the
fault of a trap that the word springs. -/
inductive Attempt (s : Machine) : Prop where
  /-- The tick succeeds. -/
  | made (i : Instruction) (hi : s.Executes i) (htick : s.tick = .ok s.step)
  /-- The tick fails. -/
  | failed (trap : Trap) (htrap : s.Springs trap) (htick : s.tick = .error (s.faultOn trap))

/-- Any cycle of a machine that runs is an attempt. -/
lemma attempt_of_healthy {s : Machine} (hs : s.fault = none) : s.Attempt := by
  rcases s.step_cases with ⟨r, hr, -⟩ | ⟨trap, -, htrap, hstep⟩ | ⟨i, s', hi, hrun, hstep⟩
  · cases hs.symm.trans hr
  · refine .failed trap htrap ?_
    rw [tick, hstep]
    rfl
  · have hhealthy : s'.fault = none := (fault_of_run hrun).trans hs
    refine .made i hi ?_
    rw [tick, checked, hstep, hhealthy]

/-- A frame attempts no tick of a machine that waits, and any other attempt is one. -/
lemma of_mem_attempts {s m : Machine} {n : ℕ} (hs : s.fault = none) (hpoised : s.Poised)
    (h : m ∈ s.attempts n) : m.isWaiting = false ∧ m.Attempt := by
  obtain ⟨k, hk, rfl⟩ := List.mem_map.mp h
  rw [List.mem_range] at hk
  rcases Nat.lt_or_ge k (s.frameTicks n) with hlt | hge
  · have hgoes : ¬s.EndsFrame n k := Nat.find_min _ hlt
    simp only [EndsFrame, not_or, Bool.not_eq_true, isFaulted, Option.isSome_eq_false_iff,
      Option.isNone_iff_eq_none] at hgoes
    exact ⟨hgoes.2.1, attempt_of_healthy (fault_eq_none_of_step hgoes.2.2)⟩
  · -- the last attempt, which a fault stops
    have hstops : s.StopsFrame n := by
      by_contra hgoes
      rw [if_neg hgoes] at hk
      omega
    rw [if_pos hstops] at hk
    obtain rfl : k = s.frameTicks n := by omega
    refine ⟨?_, attempt_of_healthy (fault_runSteps_frameTicks hs n)⟩
    rw [isWaiting, awaitingKey_of_stops (hpoised.runSteps _) hstops.2, Bool.false_and]

variable (s : Machine)

/-- A frame without instructions ends at once. -/
lemma frameTicks_zero : s.frameTicks 0 = 0 :=
  Nat.le_zero.mp ((s.isLeast_frameTicks 0).2 (.inl rfl))

lemma attempts_zero : s.attempts 0 = [] := by
  have hgoes : ¬s.StopsFrame 0 := fun h => absurd h.1 (Nat.not_lt_zero _)
  rw [attempts, s.frameTicks_zero, if_neg hgoes]
  rfl

/-- A machine that waits is spared the frame. -/
lemma attempts_of_isWaiting {s : Machine} (hpoised : s.Poised) (hwaiting : s.isWaiting = true)
    (n : ℕ) : s.attempts n = [] := by
  have hzero : s.frameTicks n = 0 :=
    Nat.le_zero.mp ((s.isLeast_frameTicks n).2 (.inr (.inl hwaiting)))
  have hgoes : ¬s.StopsFrame n := by
    rintro ⟨-, hstops⟩
    rw [hzero] at hstops
    have hidle := awaitingKey_of_stops hpoised hstops
    rw [isWaiting, hidle] at hwaiting
    cases hwaiting
  rw [attempts, hzero, if_neg hgoes]
  rfl

/-- A machine that its next cycle stops is attempted once. -/
lemma attempts_of_stops {s : Machine} (hstops : s.step.isFaulted = true) (n : ℕ) :
    s.attempts (n + 1) = [s] := by
  have hzero : s.frameTicks (n + 1) = 0 :=
    Nat.le_zero.mp ((s.isLeast_frameTicks (n + 1)).2 (.inr (.inr hstops)))
  have hends : s.StopsFrame (n + 1) := by
    rw [StopsFrame, hzero]
    exact ⟨Nat.succ_pos n, hstops⟩
  rw [attempts, hzero, if_pos hends]
  rfl

/-- A machine that ticks is attempted, and then those behind the tick are. -/
lemma attempts_of_goes {s : Machine} (hwaiting : s.isWaiting = false)
    (hgoes : s.step.isFaulted = false) (n : ℕ) :
    s.attempts (n + 1) = s :: s.step.attempts n := by
  have hfirst : ¬s.EndsFrame (n + 1) 0 := by
    rintro (hfull | hwaits | hstops)
    · cases hfull
    · cases hwaiting.symm.trans hwaits
    · cases hgoes.symm.trans hstops
  have hrest : ∀ t, s.EndsFrame (n + 1) (t + 1) ↔ s.step.EndsFrame n t := fun t => by
    rw [EndsFrame, EndsFrame, runSteps_succ, Nat.add_right_cancel_iff]
  have hticks : s.frameTicks (n + 1) = s.step.frameTicks n + 1 := by
    unfold frameTicks
    rw [Nat.find_comp_succ _ ⟨n, (hrest n).mpr (.inl rfl)⟩ hfirst]
    simp only [hrest]
  have hstops : s.StopsFrame (n + 1) ↔ s.step.StopsFrame n := by
    rw [StopsFrame, StopsFrame, hticks, runSteps_succ, Nat.add_lt_add_iff_right]
  simp only [attempts, hticks, hstops]
  rw [Nat.add_right_comm, List.range_succ_eq_map, List.map_cons, List.map_map]
  refine congrArg (_ :: ·) (List.map_congr_left fun k _ => ?_)
  exact s.runSteps_succ k

/-- The record that tells of a machine which is about to tick. -/
def traceRecord (now : ℤ) (s : Machine) : Record :=
  { time := now, level := Level.debug.name
    entry := .instruction s.pc.toNat s.nextWord.toNat }

end Machine

/-! ## Records -/

/-- Whether an entry tells of an instruction. -/
def Entry.isInstruction : Entry → Bool
  | .instruction _ _ => true
  | _ => false

namespace Journal

/-- The records of instructions, in order. -/
def trace (j : Journal) : List Record :=
  j.records.toList.filter fun record => record.entry.isInstruction

/-- At the lightest threshold an instruction is told, as long as the clock can be read. -/
lemma records_perform_instruction {j : Journal} (hdebug : j.style.threshold = .debug)
    (hreads : j.Reads) (pc word : ℤ) :
    (j.perform (.instruction pc word)).records = j.records.push
      { time := j.clock 0, level := Level.debug.name, entry := .instruction pc word } := by
  have hadmits : j.style.threshold.admits (Call.instruction pc word).level = true := by
    rw [hdebug]
    rfl
  have htold := told_of_reads hreads (.instruction pc word) rfl
  simp only [perform, hadmits, htold]
  rfl

/-- A message is no record of an instruction. -/
lemma trace_perform_message (j : Journal) (level words : String) :
    (j.perform (.message level words)).trace = j.trace := by
  have hnone : ((j.told (.message level words)).filter fun record =>
      j.style.threshold.admits record.level).filter (fun record => record.entry.isInstruction) =
        [] := by
    refine List.filter_eq_nil_iff.mpr fun record hrecord => ?_
    have hentry := (of_mem_told (List.mem_filter.mp hrecord).1).2
    rw [List.mem_singleton.mp hentry]
    exact Bool.false_ne_true
  rw [trace, records_perform, List.filter_append, hnone, List.append_nil, trace]

end Journal

namespace Session

variable {s : Session}

/-- The records of machines that are about to tick, each at a reading of its own. -/
def traceRecords (clock : ℕ → ℤ) (machines : List Machine) : List Record :=
  machines.mapIdx fun k m => m.traceRecord (clock k)

/-- **The instructions of a frame leave a record for each attempt**, in order.

**Proof sketch.** By induction on the length of the frame, along the recursion of `execute`. The
record is made of the machine as it is before the tick, and the readings that are still to come are
those behind its own. -/
theorem records_execute (hs : s.Sound) (hdebug : s.journal.style.threshold = .debug)
    (hreads : s.journal.Reads) (n : ℕ) :
    (s.execute n).1.journal.records.toList = s.journal.records.toList ++
      traceRecords s.journal.clock (s.machine.attempts n) := by
  induction n generalizing s with
  | zero => rw [Machine.attempts_zero, traceRecords, List.mapIdx_nil, List.append_nil, execute]
  | succ n ih =>
    rw [execute]
    cases hwaiting : s.machine.isWaiting with
    | true =>
      rw [Machine.attempts_of_isWaiting hs.poised hwaiting, traceRecords, List.mapIdx_nil,
        List.append_nil, if_pos rfl]
    | false =>
      have htraced : s.trace.journal.records =
          s.journal.records.push (s.machine.traceRecord (s.journal.clock 0)) :=
        Journal.records_perform_instruction hdebug hreads _ _
      rw [if_neg Bool.false_ne_true]
      rcases s.machine.tick_cases with ⟨r, hr, htick⟩ | ⟨hhealthy, htick⟩
      · have htick' : s.trace.machine.tick = .error r.report := htick
        have hstops : s.machine.step.isFaulted = true := by rw [Machine.isFaulted, hr]; rfl
        simp only [htick', htraced, Machine.attempts_of_stops hstops, Array.toList_push]
        rfl
      · have htick' : s.trace.machine.tick = .ok s.machine.step := htick
        have hgoes : s.machine.step.isFaulted = false := by rw [Machine.isFaulted, hhealthy]; rfl
        have hsound : Sound { s.trace with
            machine := s.machine.step, cycles := s.trace.cycles + 1 } :=
          ⟨hs.freshHealthy, hs.freshIdle, hhealthy, hs.poised.runSteps 1⟩
        have hrest := ih hsound hdebug (hreads.perform _)
        simp only [htick', Machine.attempts_of_goes hwaiting hgoes]
        refine hrest.trans ?_
        simp only [htraced, Array.toList_push, traceRecords, List.mapIdx_cons, List.append_assoc,
          List.singleton_append]
        rfl

/-! ## Requests -/

/-- The machines that a request attempts to tick. -/
def attempted (s : Session) : Request → List Machine
  | .runFrame _ => s.machine.attempts s.perFrame.toNat
  | _ => []

/-- What a request adds to the trace of a session, and how that is counted. -/
structure Traced (s : Session) (t : Timed) : Prop where
  /-- There is a record for each tick that is attempted, in order. -/
  records : (s.answer t).journal.trace =
    s.journal.trace ++ traceRecords t.clock (s.attempted t.request)
  /-- The line of a record shows the program counter, the word and the assembly text of the word
  behind its head. -/
  line : ∀ (m : Machine) (now : ℤ), (s.answer t).journal.line (m.traceRecord now) =
    (s.answer t).journal.head (m.traceRecord now) ++
      ("0x" ++ Hex.padded 3 m.pc.toNat ++ ": " ++ Hex.padded 4 m.nextWord.toNat ++ " " ++
        Mnemonic.text m.nextWord.toNat) ++ "\n"
  /-- No machine is attempted that waits. A tick performs the instruction of the next word, or
  reports the fault of a trap that the word springs. -/
  attempted : ∀ m ∈ s.attempted t.request, m.isWaiting = false ∧ m.Attempt
  /-- A machine that waits is spared. -/
  spared : s.machine.isWaiting = true → s.attempted t.request = []
  /-- The attempts are the ticks that are counted, and one more if a fault is raised. -/
  counted : (s.attempted t.request).length + s.cycles =
    (s.answer t).cycles + if ((s.atClock t.clock).reply t.request).isFault then 1 else 0

/-- The time of a frame tells nothing. -/
lemma journal_runFrame (s : Session) (elapsed? : Option ℤ) :
    (s.runFrame elapsed?).1.journal = (s.execute s.perFrame.toNat).1.journal := by
  unfold runFrame
  cases s.execute s.perFrame.toNat with | mk executed fault? =>
  cases fault? with
  | some fault => rfl
  | none =>
    obtain ⟨periods, clock, ticks, htimers⟩ := executed.advanceTimers_eq elapsed?
    dsimp only
    rw [htimers]
    split_ifs <;> rfl

/-- A frame counts the ticks that it makes, and raises a fault if one ends it. -/
lemma counted_runFrame (hs : s.Sound) (elapsed? : Option ℤ) :
    (s.machine.attempts s.perFrame.toNat).length + s.cycles =
      (s.runFrame elapsed?).1.cycles +
        if (Reply.raised (s.runFrame elapsed?).2).isFault then 1 else 0 := by
  obtain ⟨executed, hticked, hrun⟩ := runFrame_spec hs elapsed?
  have hcycles : executed.cycles = s.cycles + s.machine.frameTicks s.perFrame.toNat := by
    rw [hticked.moved]
  rw [Machine.attempts, List.length_map, List.length_range]
  split at hrun
  case isTrue hstops =>
    obtain ⟨trap, -, -, hrun⟩ := hrun
    rw [hrun, if_pos hstops, hcycles]
    simp only [Reply.isFault, if_true]
    omega
  case isFalse hgoes =>
    obtain ⟨periods, clock, ticks, htimers⟩ := executed.advanceTimers_eq elapsed?
    have hfault : (Reply.raised (s.runFrame elapsed?).2).isFault = false := by
      rw [hrun]
      dsimp only
      split_ifs <;> rfl
    rw [hfault, hrun, htimers, if_neg hgoes, hcycles, if_neg Bool.false_ne_true]
    omega

/-- A request that runs no frame adds no record of an instruction and counts no tick. -/
lemma trace_and_cycles_of_ne_runFrame (s : Session) {request : Request}
    (h : ∀ elapsed?, request ≠ .runFrame elapsed?) :
    (s.serve request).journal.trace = s.journal.trace ∧ (s.serve request).cycles = s.cycles := by
  cases request with
  | runFrame elapsed? => exact absurd rfl (h elapsed?)
  | advanceTimers elapsed? =>
    obtain ⟨periods, clock, ticks, htimers⟩ := s.advanceTimers_eq elapsed?
    rw [serve, htimers]
    exact ⟨rfl, rfl⟩
  | handle event =>
    by_cases hreset : event = .down "F5"
    · subst hreset
      exact ⟨s.journal.trace_perform_message _ _, rfl⟩
    · obtain ⟨machine, hhandle, -⟩ := s.handle_of_ne_reset hreset
      rw [serve, hhandle]
      exact ⟨rfl, rfl⟩

/-- A request that runs no frame attempts no tick. -/
lemma traced_of_ne_runFrame (s : Session) {t : Timed}
    (h : ∀ elapsed?, t.request ≠ .runFrame elapsed?) : s.Traced t := by
  obtain ⟨htrace, hcycles⟩ := (s.atClock t.clock).trace_and_cycles_of_ne_runFrame h
  obtain ⟨hattempts, hreply⟩ : s.attempted t.request = [] ∧
      ((s.atClock t.clock).reply t.request).isFault = false := by
    cases hrequest : t.request with
    | runFrame elapsed? => exact absurd hrequest (h elapsed?)
    | _ => exact ⟨rfl, rfl⟩
  refine ⟨?_, fun _ _ => rfl, fun m hm => ?_, fun _ => hattempts, ?_⟩
  · rw [answer, htrace, hattempts, traceRecords, List.mapIdx_nil, List.append_nil]
    rfl
  · rw [hattempts] at hm
    cases hm
  · rw [answer, hcycles, hattempts, hreply]
    exact Nat.zero_add _

/-- The clock of the journal has no part in whether a session is sound. -/
lemma Sound.atClock (hs : s.Sound) (clock : ℕ → ℤ) : (s.atClock clock).Sound :=
  ⟨hs.freshHealthy, hs.freshIdle, hs.healthy, hs.poised⟩

/-- A request to a sound session is traced at the lightest threshold. -/
lemma Sound.traced (hs : s.Sound) (hdebug : s.journal.style.threshold = .debug) {t : Timed}
    (hreads : ∀ n, Clock.isReadable (t.clock n) = true) : s.Traced t := by
  obtain ⟨clock, request⟩ := t
  cases request with
  | runFrame elapsed? =>
    refine ⟨?_, fun _ _ => rfl, fun m hm => Machine.of_mem_attempts hs.healthy hs.poised hm,
      fun hwaiting => Machine.attempts_of_isWaiting hs.poised hwaiting _,
      counted_runFrame (hs.atClock clock) elapsed?⟩
    have hrecords := records_execute (hs.atClock clock) hdebug hreads s.perFrame.toNat
    have hall : ∀ machines : List Machine,
        (traceRecords clock machines).filter (·.entry.isInstruction) =
          traceRecords clock machines := by
      intro machines
      refine List.filter_eq_self.mpr fun record hrecord => ?_
      obtain ⟨k, hk, rfl⟩ := List.mem_mapIdx.mp hrecord
      rfl
    have hjournal := (s.atClock clock).journal_runFrame elapsed?
    rw [answer, serve, Journal.trace, hjournal]
    refine (congrArg (List.filter _) hrecords).trans ?_
    rw [List.filter_append]
    exact congrArg _ (hall _)
  | handle => exact s.traced_of_ne_runFrame (by simp)
  | advanceTimers => exact s.traced_of_ne_runFrame (by simp)

/-! ## Runs -/

/-- What requests leave of a sound session. -/
lemma Sound.answered (hs : s.Sound) (ts : List Timed) :
    (s.answered ts).Sound ∧ (s.answered ts).journal.style = s.journal.style ∧
      ((∀ t ∈ ts, ∀ n, Clock.isReadable (t.clock n) = true) →
        (s.answered ts).hindrance = s.hindrance) := by
  induction ts generalizing s with
  | nil => exact ⟨hs, rfl, fun _ => rfl⟩
  | cons t ts ih =>
    obtain ⟨hsound, hupkeep⟩ := sound_served (hs.atClock t.clock) [t.request]
    obtain ⟨hanswered, hstyle, htold⟩ := ih hsound
    refine ⟨hanswered, hstyle.trans ?_, fun hreads => ?_⟩
    · rw [hupkeep.journal]
      rfl
    · exact (htold fun t' ht' => hreads t' (.tail _ ht')).trans
        (hupkeep.told (hreads t (.head _)))

/-- The trace grows by the ticks that are counted, and by the faults that are raised. -/
lemma length_trace_answered (hs : s.Sound) (hdebug : s.journal.style.threshold = .debug)
    {ts : List Timed} (hreads : ∀ t ∈ ts, ∀ n, Clock.isReadable (t.clock n) = true) :
    (s.answered ts).journal.trace.length + s.cycles =
      s.journal.trace.length + (s.answered ts).cycles + (s.replies ts).countP Reply.isFault := by
  induction ts generalizing s with
  | nil => rfl
  | cons t ts ih =>
    have htraced := hs.traced hdebug (hreads t (.head _))
    obtain ⟨hsound, hstyle, -⟩ := hs.answered [t]
    have hrest := ih hsound (hstyle ▸ hdebug) fun t' ht' => hreads t' (.tail _ ht')
    have hlength := congrArg List.length htraced.records
    have hcounted := htraced.counted
    rw [List.length_append, traceRecords, List.length_mapIdx] at hlength
    rw [replies, List.countP_cons]
    simp only [Session.answered, List.foldl_cons, List.foldl_nil] at hrest ⊢
    omega

/-- A session starts with any journal, and all that differs then is the journal. -/
lemma exists_sameCourse_of_start {options : Options} {journal : Journal}
    (hstart : start options journal = .ok s) (journal' : Journal) :
    ∃ s', start options journal' = .ok s' ∧ SameCourse s s' ∧ s'.hindrance = none := by
  obtain ⟨palette, fresh, hpalette, hboot, rfl⟩ := exists_of_start hstart
  refine ⟨{ fresh, machine := fresh, palette, scale := options.scale
            perFrame := options.perFrame, framesPerSecond := options.framesPerSecond, cycles := 0
            clock := 0, journal := journal', hindrance := none }, ?_, rfl, rfl⟩
  rw [start, hpalette, hboot]
  rfl

/-- **The trace is complete, and keeping it changes nothing else.** Whatever the journal of a
session keeps, the session takes the same course and yields the same, and every report is told. At
the lightest threshold the trace has a record for each tick that is attempted.

**Proof sketch.** Reports change nothing but the journal, so the course is the same by induction on
the requests. A session stays sound from its start, and each request to a sound session is
traced. -/
theorem trace_of_start (options : Options) (journal : Journal) (s : Session)
    (hstart : start options journal = .ok s) (ts : List Timed)
    (hreads : ∀ t ∈ ts, ∀ n, Clock.isReadable (t.clock n) = true) :
    (∀ journal', ∃ s', start options journal' = .ok s' ∧
      SameCourse (s.answered ts) (s'.answered ts) ∧ s'.replies ts = s.replies ts ∧
      (s'.answered ts).hindrance = none) ∧
    (journal.style.threshold = .debug →
      (∀ t : Timed, (∀ n, Clock.isReadable (t.clock n) = true) → (s.answered ts).Traced t) ∧
      (s.answered ts).journal.trace.length =
        journal.trace.length + (s.answered ts).cycles +
          (s.replies ts).countP Reply.isFault) := by
  have hsound := sound_of_start hstart
  constructor
  · intro journal'
    obtain ⟨s', hstart', hsame, hnone⟩ := exists_sameCourse_of_start hstart journal'
    obtain ⟨hanswered, hreplies⟩ := hsame.answered ts
    obtain ⟨-, -, htold⟩ := (sound_of_start hstart').answered ts
    exact ⟨s', hstart', hanswered, hreplies, (htold hreads).trans hnone⟩
  · intro hdebug
    obtain ⟨palette, fresh, -, -, rfl⟩ := exists_of_start hstart
    obtain ⟨hanswered, hstyle, -⟩ := hsound.answered ts
    exact ⟨fun t ht => hanswered.traced (hstyle ▸ hdebug) ht,
      length_trace_answered hsound hdebug hreads⟩

/-- A program that sets the delay timer, waits for a key and then returns without a call, at four
instructions a frame. The first frame attempts three ticks and the second none; after a key the
third frame takes the key and meets the return, and so does the fourth one at once. A new beginning
brings three attempts more: nine records for seven ticks and two faults. The clock goes on by one
between two records of a frame. -/
theorem trace_of_start_lone_return :
    ∃ s, start { rom := [0x61, 0x05, 0xF1, 0x15, 0xF0, 0x0A, 0x00, 0xEE], perFrame := 4 }
        (.blank { threshold := .debug } fun _ => 0) = .ok s ∧
      let since (ms : ℤ) (n : ℕ) : ℤ := ms + min n 9
      let ts : List Timed := [⟨since 10, .runFrame (some 16)⟩, ⟨since 26, .runFrame none⟩,
        ⟨since 30, .handle (.down "1")⟩, ⟨since 42, .runFrame none⟩, ⟨since 58, .runFrame none⟩,
        ⟨since 60, .handle (.down "F5")⟩, ⟨since 74, .runFrame none⟩]
      (∀ journal', ∃ s',
        start { rom := [0x61, 0x05, 0xF1, 0x15, 0xF0, 0x0A, 0x00, 0xEE], perFrame := 4 } journal' =
          .ok s' ∧ SameCourse (s.answered ts) (s'.answered ts) ∧ s'.replies ts = s.replies ts) ∧
      (s.answered ts).Traced ⟨since 90, .runFrame none⟩ ∧
      (s.answered ts).journal.trace.map (fun record => (record.time, record.entry)) =
        [(10, .instruction 0x200 0x6105), (11, .instruction 0x202 0xF115),
          (12, .instruction 0x204 0xF00A), (42, .instruction 0x204 0xF00A),
          (43, .instruction 0x206 0x00EE), (58, .instruction 0x206 0x00EE),
          (74, .instruction 0x200 0x6105), (75, .instruction 0x202 0xF115),
          (76, .instruction 0x204 0xF00A)] ∧
      (s.answered ts).cycles = 7 ∧ (s.replies ts).countP Reply.isFault = 2 := by
  refine ⟨_, rfl, ?_⟩
  intro since ts
  have hread (ms : ℤ) (hms : 0 ≤ ms ∧ ms < 1000) (n : ℕ) : Clock.isReadable (since ms n) = true :=
    Clock.isReadable_of_lt (show (ms + min n 9).natAbs < 0x10000000000000000 by omega)
  obtain ⟨hcourse, htraced⟩ := trace_of_start
    { rom := [0x61, 0x05, 0xF1, 0x15, 0xF0, 0x0A, 0x00, 0xEE], perFrame := 4 }
    (.blank { threshold := .debug } fun _ => 0) _ rfl ts (by simp [ts, hread])
  refine ⟨fun journal' => ?_, (htraced rfl).1 _ (hread 90 (by decide)), by decide +kernel,
    by decide +kernel, by decide +kernel⟩
  obtain ⟨s', hstart, hsame, hreplies, -⟩ := hcourse journal'
  exact ⟨s', hstart, hsame, hreplies⟩

end Session

end Chip8
