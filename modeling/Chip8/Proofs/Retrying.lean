import Chip8.Proofs.Upkeep

set_option autoImplicit false

/-!
# Frames that fail and are tried again

A session is asked to handle events, to run frames and to let time pass, in any order. The machine
that it keeps never stops: a frame that meets a fault keeps the machine as it was before, with the
ticks until then made and counted, and no time passes. From then on every frame meets the same fault
at once. Keys and timers have no part in it, since a machine that is about to stop does not wait for
a key; only a new beginning gets away from it.

## Main definitions

* `Chip8.Request`, `Chip8.Session.served` — what a session is asked for, and a session after a list
  of requests.
* `Chip8.Machine.SameProgress` — no cycle lies between two machines.
* `Chip8.Session.Retries` — a session whose frames meet the same fault again and again.
* `Chip8.Session.Consistent` — what a frame makes of a session, whether a fault ends it or not.

## Main results

* `Chip8.Session.sound_served` — the machine of a session runs, after any requests.
* `Chip8.Session.retries_of_springs` — a machine that is about to stop remains so.
* `Chip8.Session.consistent_of_start` — sessions are consistent from their start, after any
  requests.
-/

namespace Chip8

/-! ## Machines without a cycle between them -/

namespace Machine

/-- No cycle lies between two machines: they differ in their timers, their keys and the latch only.
-/
def SameProgress (s s' : Machine) : Prop :=
  s' = { s with
    delayTimer := s'.delayTimer
    soundTimer := s'.soundTimer
    keypad := s'.keypad
    lastKey := s'.lastKey }

namespace SameProgress

variable {s s' s'' : Machine}

/-- Two stretches without a cycle are one. -/
lemma trans (h : s.SameProgress s') (h' : s'.SameProgress s'') : s.SameProgress s'' := by
  unfold SameProgress at h h' ⊢
  rw [h', h]

/-- Without a cycle a machine stands where it stood. -/
lemma sameStand (h : s.SameProgress s') : SameStand s s' := by
  rw [h]
  exact ⟨rfl, rfl, rfl, rfl⟩

/-- Without a cycle a trap of the next word remains one. -/
lemma springs (h : s.SameProgress s') {trap : Trap} (ht : s.Springs trap) : s'.Springs trap := by
  rw [h]
  cases trap <;> exact ht

/-- Without a cycle the fault of a trap is the same. -/
lemma faultOn_eq (h : s.SameProgress s') (trap : Trap) : s'.faultOn trap = s.faultOn trap := by
  rw [h]
  rfl

/-- No cycle lies between a machine and itself some periods of the timers later. -/
lemma repeat_decrementTimers (s : Machine) (periods : ℕ) :
    s.SameProgress (periods.repeat decrementTimers s) := by
  have hperiod : ∀ s' : Machine, s'.SameProgress s'.decrementTimers := fun _ => rfl
  induction periods with
  | zero => rfl
  | succ periods ih => exact ih.trans (hperiod _)

end SameProgress

end Machine

/-! ## Requests -/

/-- What a session is asked for between its start and its end. -/
inductive Request where
  /-- An event is handled. -/
  | handle (event : Event)
  /-- A frame is run, and takes a number of milliseconds or the length that the rate gives it. -/
  | runFrame (elapsed? : Option ℤ)
  /-- Time passes, a number of milliseconds or the length of a frame. -/
  | advanceTimers (elapsed? : Option ℤ)

namespace Session

/-- The session after a request, also if it raised an error. -/
def serve (s : Session) : Request → Session
  | .handle event => (s.handle event).1
  | .runFrame elapsed? => (s.runFrame elapsed?).1
  | .advanceTimers elapsed? => (s.advanceTimers elapsed?).1

/-- The session after a list of requests. -/
def served (s : Session) (requests : List Request) : Session :=
  requests.foldl serve s

/-- An event that does not begin anew moves keys of the machine at most. -/
lemma handle_of_ne_reset (s : Session) {event : Event} (h : event ≠ .down "F5") :
    ∃ machine, (s.handle event).1 = { s with machine } ∧ s.machine.SameProgress machine := by
  unfold handle
  split
  case h_1 => exact ⟨_, rfl, rfl⟩
  case h_2 => exact ⟨_, rfl, rfl⟩
  case h_3 => exact absurd rfl h
  case h_6 => exact ⟨_, rfl, rfl⟩
  all_goals split <;> exact ⟨_, rfl, rfl⟩

/-! ## Sound sessions -/

/-- A session stays sound if its machine runs on, and what else it keeps is left alone. -/
lemma Sound.of_upkeep {s s' : Session} (hs : s.Sound) (h : Upkeep s s')
    (hhealthy : s'.machine.fault = none) (hpoised : s'.machine.Poised) : s'.Sound := by
  refine ⟨?_, ?_, hhealthy, hpoised⟩
  · rw [h.fresh_eq, hs.freshHealthy]
  · rw [h.fresh_eq, hs.freshIdle]

/-- Time leaves a session sound. -/
lemma Sound.advanceTimers {s : Session} (hs : s.Sound) (elapsed? : Option ℤ) :
    (s.advanceTimers elapsed?).1.Sound ∧ Upkeep s (s.advanceTimers elapsed?).1 := by
  obtain ⟨periods, clock, ticks, htimers⟩ := s.advanceTimers_eq elapsed?
  have hstand := (Machine.SameProgress.repeat_decrementTimers s.machine periods).sameStand
  rw [htimers]
  exact ⟨hs.of_upkeep (s.upkeep_moved _ _ _) (hstand.fault.trans hs.healthy)
    (hs.poised.congr hstand), s.upkeep_moved _ _ _⟩

/-- Ticks of a frame leave a session sound. -/
lemma Sound.ticked {s s' : Session} (hs : s.Sound) {n : ℕ}
    (h : Ticked s (s.machine.frameTicks n) s') : s'.Sound := by
  have hmachine : s'.machine = s.machine.runSteps (s.machine.frameTicks n) :=
    by rw [h.moved]
  refine hs.of_upkeep h.toUpkeep ?_ ?_
  · rw [hmachine]
    exact Machine.fault_runSteps_frameTicks hs.healthy n
  · rw [hmachine]
    exact hs.poised.runSteps _

/-- A frame leaves a session sound, whether a fault ends it or not. -/
lemma Sound.runFrame {s : Session} (hs : s.Sound) (elapsed? : Option ℤ) :
    (s.runFrame elapsed?).1.Sound ∧ Upkeep s (s.runFrame elapsed?).1 := by
  obtain ⟨executed, hticked, hrun⟩ := runFrame_spec hs elapsed?
  split at hrun
  · obtain ⟨trap, -, -, hrun⟩ := hrun
    rw [hrun]
    exact ⟨hs.ticked hticked, hticked.toUpkeep⟩
  · obtain ⟨hsound, hupkeep⟩ := (hs.ticked hticked).advanceTimers elapsed?
    rw [hrun]
    exact ⟨hsound, hticked.toUpkeep.trans hupkeep⟩

/-- An event leaves a session sound. -/
lemma Sound.handle {s : Session} (hs : s.Sound) (event : Event) :
    (s.handle event).1.Sound ∧ Upkeep s (s.handle event).1 := by
  by_cases hreset : event = .down "F5"
  · subst hreset
    have hupkeep : Upkeep s (s.handle (.down "F5")).1 :=
      (s.upkeep_moved s.fresh s.cycles s.clock).trans
        (upkeep_report _ rfl fun cycles h => by cases h)
    have hpoised : s.fresh.Poised := fun hon => by cases hs.freshIdle.symm.trans hon
    exact ⟨hs.of_upkeep hupkeep hs.freshHealthy hpoised, hupkeep⟩
  · obtain ⟨machine, hhandle, hprogress⟩ := s.handle_of_ne_reset hreset
    rw [hhandle]
    exact ⟨hs.of_upkeep (s.upkeep_moved _ _ _) (hprogress.sameStand.fault.trans hs.healthy)
      (hs.poised.congr hprogress.sameStand), s.upkeep_moved _ _ _⟩

/-- **The machine of a session runs, after any requests**, and what the session was set up with is
left alone.

**Proof sketch.** Every request leaves a session sound; the rest is induction on the list. -/
theorem sound_served {s : Session} (hs : s.Sound) (requests : List Request) :
    (s.served requests).Sound ∧ Upkeep s (s.served requests) := by
  induction requests generalizing s with
  | nil => exact ⟨hs, s.upkeep_moved _ _ _⟩
  | cons request requests ih =>
    have hserve : (s.serve request).Sound ∧ Upkeep s (s.serve request) := by
      cases request with
      | handle event => exact hs.handle event
      | runFrame elapsed? => exact hs.runFrame elapsed?
      | advanceTimers elapsed? => exact hs.advanceTimers elapsed?
    obtain ⟨hsound, hupkeep⟩ := ih hserve.1
    exact ⟨hsound, hserve.2.trans hupkeep⟩

/-- A session that begins is sound. -/
lemma sound_of_start {options : Options} {journal : Journal} {s : Session}
    (h : start options journal = .ok s) : s.Sound := by
  obtain ⟨palette, fresh, -, hboot, rfl⟩ := exists_of_start h
  obtain ⟨hhealthy, hidle⟩ := Machine.of_boot hboot
  exact ⟨hhealthy, hidle, hhealthy, fun hon => by cases hidle.symm.trans hon⟩

/-! ## Trying again -/

/-- A frame that begins where a trap is about to stop the machine reports its fault at once. -/
lemma runFrame_of_springs {s : Session} (hper : 0 < s.perFrame.toNat)
    (hhealthy : s.machine.fault = none) (hidle : s.machine.awaitingKey = false) {trap : Trap}
    (ht : s.machine.Springs trap) (elapsed? : Option ℤ) :
    s.runFrame elapsed? = (s.trace, some (.fault (s.machine.faultOn trap))) := by
  obtain ⟨n, hn⟩ := Nat.exists_eq_succ_of_ne_zero hper.ne'
  -- the machine does not wait, so the frame executes an instruction, and the first one traps
  have hwaiting : s.machine.isWaiting = false := by rw [Machine.isWaiting, hidle, Bool.false_and]
  have htick : s.trace.machine.tick = .error (s.machine.faultOn trap) := by
    show s.machine.step.checked = _
    rw [Machine.step_of_springs hhealthy ht]
    rfl
  rw [runFrame, hn, execute, if_neg (by rw [hwaiting]; exact Bool.false_ne_true)]
  simp only [htick]

/-- A session where a trap is about to stop the machine, a stretch without a cycle after it was kept
there. -/
structure Stuck (kept : Session) (trap : Trap) (s : Session) : Prop where
  /-- A frame has instructions. -/
  perFrame : 0 < s.perFrame.toNat
  /-- The machine runs. -/
  healthy : s.machine.fault = none
  /-- It does not wait for a key. -/
  idle : s.machine.awaitingKey = false
  /-- The next word springs the trap. -/
  springs : s.machine.Springs trap
  /-- There was no cycle. -/
  progress : kept.machine.SameProgress s.machine
  /-- Nothing was counted. -/
  cycles : s.cycles = kept.cycles

namespace Stuck

variable {kept s : Session} {trap : Trap}

/-- A session remains stuck without a cycle. -/
lemma of_sameProgress (h : Stuck kept trap s) {s' : Session} (hper : s'.perFrame = s.perFrame)
    (hprogress : s.machine.SameProgress s'.machine) (hcycles : s'.cycles = s.cycles) :
    Stuck kept trap s' where
  perFrame := hper ▸ h.perFrame
  healthy := hprogress.sameStand.fault.trans h.healthy
  idle := hprogress.sameStand.awaitingKey.trans h.idle
  springs := hprogress.springs h.springs
  progress := h.progress.trans hprogress
  cycles := hcycles.trans h.cycles

/-- No request but to begin anew makes a cycle: a frame meets the trap first, and events and time
move keys and timers only. -/
lemma serve (h : Stuck kept trap s) {request : Request}
    (hrequest : request ≠ .handle (.down "F5")) : Stuck kept trap (s.serve request) := by
  cases request with
  | handle event =>
    obtain ⟨machine, hhandle, hprogress⟩ :=
      s.handle_of_ne_reset fun hevent => hrequest (congrArg Request.handle hevent)
    rw [Session.serve, hhandle]
    exact h.of_sameProgress rfl hprogress rfl
  | runFrame elapsed? =>
    rw [Session.serve, runFrame_of_springs h.perFrame h.healthy h.idle h.springs]
    exact h.of_sameProgress rfl rfl rfl
  | advanceTimers elapsed? =>
    obtain ⟨periods, clock, ticks, htimers⟩ := s.advanceTimers_eq elapsed?
    rw [Session.serve, htimers]
    exact h.of_sameProgress rfl (.repeat_decrementTimers s.machine periods) rfl

/-- A session remains stuck until it begins anew. -/
lemma served (h : Stuck kept trap s) {requests : List Request}
    (hrequests : ∀ request ∈ requests, request ≠ .handle (.down "F5")) :
    Stuck kept trap (s.served requests) := by
  induction requests generalizing s with
  | nil => exact h
  | cons request requests ih =>
    exact ih (h.serve (hrequests request (.head _))) fun r hr => hrequests r (.tail _ hr)

end Stuck

/-- The frames of a session meet the fault of a trap again and again, whatever is asked of it but to
begin anew, and no tick is made or counted. -/
def Retries (kept : Session) (trap : Trap) : Prop :=
  ∀ requests, (∀ request ∈ requests, request ≠ .handle (.down "F5")) →
    kept.machine.SameProgress (kept.served requests).machine ∧
    (kept.served requests).cycles = kept.cycles ∧
    ∀ elapsed?, ∃ again, Ticked (kept.served requests) 0 again ∧
      (kept.served requests).runFrame elapsed? =
        (again, some (.fault (kept.machine.faultOn trap)))

/-- **A machine that is about to stop remains so**, and its frames meet the same fault. -/
theorem retries_of_springs {kept : Session} (hper : 0 < kept.perFrame.toNat)
    (hhealthy : kept.machine.fault = none) (hidle : kept.machine.awaitingKey = false) {trap : Trap}
    (ht : kept.machine.Springs trap) : kept.Retries trap := by
  intro requests hrequests
  have hstuck : Stuck kept trap (kept.served requests) :=
    Stuck.served ⟨hper, hhealthy, hidle, ht, rfl, rfl⟩ hrequests
  refine ⟨hstuck.progress, hstuck.cycles, fun elapsed? => ⟨(kept.served requests).trace, ?_, ?_⟩⟩
  · have htrace : Upkeep (kept.served requests) (kept.served requests).trace :=
      upkeep_report _ rfl fun cycles h => by cases h
    exact ⟨htrace, rfl⟩
  · rw [runFrame_of_springs hstuck.perFrame hstuck.healthy hstuck.idle hstuck.springs,
      hstuck.progress.faultOn_eq]

/-! ## Consistency -/

/-- What a frame makes of a session, and how many ticks it makes. -/
structure Consistent (s : Session) : Prop where
  /-- The machine that the session keeps has not stopped. -/
  healthy : s.machine.isFaulted = false
  /-- A frame makes the least number of ticks after which it is full, the machine waits for a key,
  or the next cycle stops it. -/
  least : IsLeast {t | s.machine.EndsFrame s.perFrame.toNat t}
    (s.machine.frameTicks s.perFrame.toNat)
  /-- If no fault ends it, the ticks are made and counted, and time passes. -/
  passed : ¬s.machine.StopsFrame s.perFrame.toNat → ∀ elapsed?, ∃ executed,
    Ticked s (s.machine.frameTicks s.perFrame.toNat) executed ∧
    (s.runFrame elapsed?).1 = (executed.advanceTimers elapsed?).1 ∧
    (elapsed?.isSome = true ∨ s.framesPerSecond ≠ 0 → (s.runFrame elapsed?).2 = none)
  /-- If a fault ends it, the ticks are made and counted, the fault is that of the trap which is
  about to stop the machine that is kept, and no time passes. Trying again meets the same fault. -/
  failed : s.machine.StopsFrame s.perFrame.toNat → ∀ elapsed?, ∃ kept trap,
    Ticked s (s.machine.frameTicks s.perFrame.toNat) kept ∧ kept.machine.Springs trap ∧
    s.runFrame elapsed? = (kept, some (.fault (kept.machine.faultOn trap))) ∧ kept.Retries trap

/-- A sound session is consistent. -/
lemma Sound.consistent {s : Session} (hs : s.Sound) : s.Consistent where
  healthy := by
    rw [Machine.isFaulted, hs.healthy]
    rfl
  least := s.machine.isLeast_frameTicks s.perFrame.toNat
  passed hgoes elapsed? := by
    obtain ⟨executed, hticked, hrun⟩ := runFrame_spec hs elapsed?
    rw [if_neg hgoes] at hrun
    refine ⟨executed, hticked, by rw [hrun], fun htime => ?_⟩
    have hmeasure : ¬(elapsed? = none ∧ s.framesPerSecond = 0) := by
      rintro ⟨rfl, hzero⟩
      rcases htime with hsome | hrate
      · cases hsome
      · exact hrate hzero
    rw [hrun, if_neg hmeasure]
  failed hstops elapsed? := by
    obtain ⟨kept, hticked, hrun⟩ := runFrame_spec hs elapsed?
    rw [if_pos hstops] at hrun
    obtain ⟨trap, htrap, hidle, hrun⟩ := hrun
    refine ⟨kept, trap, hticked, htrap, hrun, retries_of_springs ?_ ?_ hidle htrap⟩
    · rw [hticked.perFrame_eq]
      exact Nat.zero_lt_of_lt hstops.1
    · exact (hs.ticked hticked).healthy

/-- **Sessions are consistent from their start, after any requests**, and as long as the clock of
the journal can be read, no report was kept from being told.

**Proof sketch.** A session that begins is sound, and every request leaves it so. -/
theorem consistent_of_start (options : Options) (journal : Journal) (s : Session)
    (hstart : start options journal = .ok s) (requests : List Request) :
    (s.served requests).Consistent ∧
      (journal.Reads → (s.served requests).hindrance = none) := by
  obtain ⟨hsound, hupkeep⟩ := sound_served (sound_of_start hstart) requests
  have hbegun := begun_of_start hstart
  refine ⟨hsound.consistent, fun hreads => ?_⟩
  rw [hupkeep.told (by rwa [hbegun.journal]), hbegun.hindrance]

/-- A program that sets the delay timer, waits for a key and then returns without a call. A frame
ends where it waits; after a key the next frame takes the key and meets the return, and so does a
frame after another key and some time. -/
theorem consistent_of_start_lone_return :
    ∃ s, start { rom := [0x61, 0x05, 0xF1, 0x15, 0xF0, 0x0A, 0x00, 0xEE] }
        (.blank {} fun _ => 0) = .ok s ∧
      let pressed := s.served [.runFrame (some 16), .handle (.down "1")]
      let kept := (pressed.runFrame none).1
      let later := kept.served [.handle (.down "q"), .advanceTimers (some 1000), .runFrame none]
      pressed.Consistent ∧ pressed.hindrance = none ∧
        (pressed.runFrame none).2 = some
          (.fault { kind := .trapped .stackUnderflow, opcode := 0x00EE, pc := 0x206 }) ∧
        (later.runFrame none).2 = (pressed.runFrame none).2 ∧
        pressed.cycles = 3 ∧ kept.cycles = 4 ∧ later.cycles = 4 := by
  refine ⟨_, rfl, ?_⟩
  obtain ⟨hconsistent, htold⟩ := consistent_of_start
    { rom := [0x61, 0x05, 0xF1, 0x15, 0xF0, 0x0A, 0x00, 0xEE] } (.blank {} fun _ => 0) _ rfl
    [.runFrame (some 16), .handle (.down "1")]
  refine ⟨hconsistent, htold fun _ => Clock.isReadable_zero, ?_⟩
  decide +kernel

end Session

end Chip8
