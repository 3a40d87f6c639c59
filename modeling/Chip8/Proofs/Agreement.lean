import Chip8.Proofs.SessionFrame
import Chip8.Proofs.Stopped

set_option autoImplicit false

/-!
# Sessions and runs without a screen

A session without events, at the rate of its timers, and a run without a screen are two loops over
the same cycles. The session leaves a frame early where the machine waits for a key, and ends with
the first fault; the run goes on, but a waiting machine does nothing in a cycle, and of a stopped
one only the timers move.

## Main definitions

* `Chip8.Session.runFrames` — frames of a session without events, up to the first error.
* `Chip8.Session.Even` — a session whose frames take one period of the timers each.
* `Chip8.Session.Agrees` — a machine after a run without a screen, and a session after as many
  frames.

## Main results

* `Chip8.Session.runFrame_cases` — what a frame of an even session does.
* `Chip8.Session.agrees_of_even` — even sessions agree with runs without a screen.
* `Chip8.Session.agrees_of_start` — so do sessions from their start, for all frames that can be
  run.
-/

namespace Chip8

namespace Session

/-! ## Frames that take one period each -/

/-- A number of frames without events, of the length that the rate of the session gives them, up to
the first that raises an error. -/
def runFrames (s : Session) : ℕ → Session × Option Error
  | 0 => (s, none)
  | n + 1 =>
    match s.runFrame none with
    | (s', none) => s'.runFrames n
    | (s', some error) => (s', some error)

/-- A session at the rate of its timers, with no time left to spend and a machine that runs. -/
structure Even (s : Session) : Prop where
  /-- Each frame takes one period of the timers. -/
  framesPerSecond : s.framesPerSecond = 60
  /-- No time is left to spend. -/
  clock : s.clock = 0
  /-- The machine has not stopped. -/
  healthy : s.machine.fault = none
  /-- The machine stands on the instruction that waits, if one does. -/
  poised : s.machine.Poised

/-- At the rate of the timers a frame lets them run for one period, and no time is left. -/
lemma advanceTimers_none {s : Session} (hrate : s.framesPerSecond = 60) (hclock : s.clock = 0) :
    s.advanceTimers none =
      ({ s with clock := 0, machine := s.machine.decrementTimers }, .ok 1) := by
  have hnonzero : s.framesPerSecond ≠ 0 := by omega
  have hspend : s.clock + Int.fdiv 60000 s.framesPerSecond = 1000 := by
    rw [hrate, hclock]
    rfl
  rw [advanceTimers, if_neg hnonzero, spend, hspend]
  rfl

/-- **A frame of an even session** does what a frame without a screen does, or ends with the fault
that stops the machine in it. -/
theorem runFrame_cases {s : Session} (h : s.Even) :
    (∃ s', s.runFrame none = (s', none) ∧ s'.Even ∧ SamePace s s' ∧
      s'.machine = s.machine.frame s.perFrame.toNat) ∨
    (∃ s' r, s.runFrame none = (s', some (.fault r.report)) ∧ SamePace s s' ∧
      s.machine.runSteps s.perFrame.toNat = { s'.machine with fault := some r }) := by
  obtain ⟨k, hk⟩ := s.execute_spec s.perFrame.toNat
  cases hexecute : s.execute s.perFrame.toNat with
  | mk executed fault? =>
    rw [hexecute] at hk
    cases fault? with
    | some fault =>
      obtain ⟨r, rfl, hstopped⟩ := hk.eq_stopped h.healthy
      exact .inr ⟨executed, r, by rw [runFrame, hexecute], hk.pace, hstopped⟩
    | none =>
      have hrate := hk.pace.framesPerSecond.trans h.framesPerSecond
      have hclock := hk.pace.clock.trans h.clock
      have hframe : executed.machine.decrementTimers = s.machine.frame s.perFrame.toNat :=
        congrArg Machine.decrementTimers (hk.eq_runSteps h.poised)
      refine .inl ⟨{ executed with clock := 0, machine := executed.machine.decrementTimers },
        ?_, ?_, ?_, hframe⟩
      · rw [runFrame, hexecute]
        simp only [advanceTimers_none hrate hclock]
      · have hpoised := Machine.lasting_poised.decrementTimers _ (hk.poised h.poised)
        exact ⟨hrate, rfl, hk.healthy h.healthy, hpoised⟩
      · exact ⟨hk.pace.perFrame, hk.pace.framesPerSecond, h.clock.symm, hk.pace.tells⟩

/-! ## Agreement -/

/-- A machine after a run without a screen, and a session after as many frames: how they agree. -/
structure Agrees (flat : Machine) (played : Session × Option Error) : Prop where
  /-- The machines are equal if no frame raised an error. -/
  equal : played.2 = none → flat = played.1.machine
  /-- The run stopped exactly if some frame raised an error. -/
  stopped : flat.isFaulted = true ↔ played.2 ≠ none
  /-- The error is the fault that the run reports: the same trap, word and program counter. -/
  diagnosed : ∀ error, played.2 = some error →
    ∃ fault, error = .fault fault ∧ flat.checked = .error fault
  /-- The machines then differ in the record of the fault and in the timers only. -/
  kept : played.2 ≠ none →
    flat = { played.1.machine with
      fault := flat.fault, delayTimer := flat.delayTimer, soundTimer := flat.soundTimer }

/-- A machine that has stopped agrees with a session that kept it as it was before. -/
lemma agrees_of_stopped {s : Session} {r : FaultRecord} {stopped : Machine}
    (h : stopped = { s.machine with fault := some r }) (perFrame frames : ℕ) :
    Agrees (frames.repeat (Machine.frame perFrame) stopped) (s, some (.fault r.report)) := by
  have hfault : stopped.fault = some r := by rw [h]
  rw [Machine.repeat_frame_of_fault hfault, h]
  exact {
    equal := fun hnone => by cases hnone
    stopped := iff_of_true rfl (Option.some_ne_none _)
    diagnosed := fun error herror => by
      cases herror
      exact ⟨r.report, rfl, rfl⟩
    kept := fun _ => rfl }

/-- **Even sessions agree with runs without a screen.**

**Proof sketch.** By induction on the frames. As long as no frame raises an error, both go through
the same cycles. The frame that raises one stops the run at the same place, and what is left of the
run moves the timers only. -/
theorem agrees_of_even {s : Session} (h : s.Even) (frames : ℕ) :
    Agrees (frames.repeat (Machine.frame s.perFrame.toNat) s.machine) (s.runFrames frames) ∧
      (s.journal.TellsInstructions → (s.runFrames frames).1.hindrance = s.hindrance) := by
  induction frames generalizing s with
  | zero =>
    have hhealthy : s.machine.isFaulted = false := by rw [Machine.isFaulted, h.healthy]; rfl
    refine ⟨⟨fun _ => rfl, ?_, fun error herror => ?_, fun hsome => absurd rfl hsome⟩, fun _ => rfl⟩
    · show s.machine.isFaulted = true ↔ none ≠ none
      simp [hhealthy]
    · cases herror
  | succ frames ih =>
    rw [repeat_succ, runFrames]
    rcases runFrame_cases h with ⟨s', hrun, heven, hpace, hmachine⟩ | ⟨s', r, hrun, hpace, hstopped⟩
    · rw [hrun, ← hmachine, ← hpace.perFrame]
      obtain ⟨hagrees, htold⟩ := ih heven
      refine ⟨hagrees, fun htells => ?_⟩
      obtain ⟨htells', hsame⟩ := hpace.tells htells
      exact (htold htells').trans hsame
    · rw [hrun]
      refine ⟨?_, fun htells => (hpace.tells htells).2⟩
      -- the cycles of the frame stopped the machine, and would not move it if they came again
      have hfault : (s.machine.runSteps s.perFrame.toNat).fault = some r := by rw [hstopped]
      rw [Machine.frame_of_stops le_rfl hfault, ← repeat_succ]
      exact agrees_of_stopped hstopped s.perFrame.toNat (frames + 1)

/-- A session that begins at the rate of the timers is even. -/
lemma Begun.even {options : Options} {journal : Journal} {s : Session}
    (h : Begun options journal s) (hrate : options.framesPerSecond = 60) : s.Even := by
  obtain ⟨hhealthy, hidle⟩ := Machine.of_boot h.machine
  refine ⟨h.framesPerSecond.trans hrate, h.clock, hhealthy, fun hon => ?_⟩
  rw [hidle] at hon
  cases hon

/-- **Sessions agree with runs without a screen from their start**, for all programs that load, all
frames of at least one instruction and any number of them, as far as the frames can be run, which
they can as long as their cycles are counted; a run that cannot be made is refused.

**Proof sketch.** The flat loop of the run is a loop over frames, and the session is even. -/
theorem agrees_of_start {host : Host} (hhost : host.CountsWords) (options : Options)
    (journal : Journal) (s : Session) (hstart : start options journal = .ok s)
    (hrate : options.framesPerSecond = 60) (hper : 1 ≤ options.perFrame) (frames : ℕ)
    (showsProgress : Bool) :
    Machine.boot options.seed options.rom = .ok s.machine ∧
      (journal.TellsInstructions → (s.runFrames frames).1.hindrance = none) ∧
      (Machine.Countable frames options.perFrame →
        Machine.Runnable host showsProgress frames options.perFrame) ∧
      if Machine.Runnable host showsProgress frames options.perFrame then
        ∃ flat, s.machine.operate host (.runHeadless frames options.perFrame showsProgress) =
            .ok flat ∧
          Agrees flat (s.runFrames frames)
      else
        ∃ error, s.machine.operate host (.runHeadless frames options.perFrame showsProgress) =
          .error error := by
  have hbegun := begun_of_start hstart
  obtain ⟨hagrees, htold⟩ := agrees_of_even (hbegun.even hrate) frames
  have hframes : (0 : ℤ) ≤ frames := Int.natCast_nonneg frames
  refine ⟨hbegun.machine, fun htells => ?_,
    fun hcount => hcount.runnable hhost hframes hper showsProgress, ?_⟩
  · rw [htold (by rw [hbegun.journal]; exact htells), hbegun.hindrance]
  · have hrun := Machine.operate_runHeadless hhost s.machine frames hper showsProgress
    split
    case isTrue hrunnable =>
      rw [if_pos hrunnable] at hrun
      refine ⟨_, hrun, ?_⟩
      obtain ⟨perFrame, hnat⟩ := Int.eq_ofNat_of_zero_le (show 0 ≤ options.perFrame by omega)
      rw [hbegun.perFrame, hnat, Int.toNat_natCast] at hagrees
      rw [hnat, Machine.runHeadless_eq_repeat _ (by omega), Int.toNat_natCast]
      exact hagrees
    case isFalse hrunnable => rwa [if_neg hrunnable] at hrun

/-- A program that sets the delay timer to five and then waits for a key: after two frames of five
instructions three periods are left, and the session, which executed three instructions, has the
same machine as the run, which went through ten cycles. -/
theorem agrees_of_start_waiting :
    ∃ s, start { rom := [0x61, 0x05, 0xF1, 0x15, 0xF0, 0x0A], perFrame := 5 }
        (.blank {} fun _ => 0) = .ok s ∧
      (s.runFrames 2).1.hindrance = none ∧
      ∃ flat, s.machine.operate .standard (.runHeadless 2 5 true) = .ok flat ∧
        Agrees flat (s.runFrames 2) ∧ (s.runFrames 2).2 = none ∧ flat.delayTimer = 3 := by
  refine ⟨_, rfl, ?_⟩
  obtain ⟨-, htold, hcounted, hrun⟩ := agrees_of_start Host.countsWords_standard
    { rom := [0x61, 0x05, 0xF1, 0x15, 0xF0, 0x0A], perFrame := 5 } (.blank {} fun _ => 0) _ rfl rfl
    (by decide) 2 true
  rw [if_pos (hcounted (by decide))] at hrun
  obtain ⟨flat, hflat, hagrees⟩ := hrun
  have hquiet := Journal.tellsInstructions_of_threshold (j := .blank {} fun _ => 0)
    (by decide +kernel)
  refine ⟨htold hquiet, flat, hflat, hagrees, by decide +kernel, ?_⟩
  rw [hagrees.equal (by decide +kernel)]
  decide +kernel

/-- A frame may be longer than a run can count. The session then stops on the empty program in its
first frame, but the run is refused and does not end stopped. -/
theorem exists_refused_run :
    ∃ s, start { perFrame := 0x80000000 } (.blank {} fun _ => 0) = .ok s ∧
      (s.runFrames 1).2 =
        some (.fault { kind := .trapped .undefinedOpcode, opcode := 0x0000, pc := 0x200 }) ∧
      ∀ showsProgress flat,
        s.machine.operate .standard (.runHeadless 1 0x80000000 showsProgress) ≠ .ok flat := by
  have hrefused : ∀ (m : Machine) (showsProgress : Bool) (flat : Machine),
      m.operate .standard (.runHeadless 1 0x80000000 showsProgress) ≠ .ok flat := by
    intro m showsProgress flat hflat
    have hrun := Machine.operate_runHeadless Host.countsWords_standard m 1
      (by decide : (1 : ℤ) ≤ 0x80000000) showsProgress
    rw [if_neg (Machine.not_runnable_of_le (by decide) showsProgress 1), hflat] at hrun
    obtain ⟨error, herror⟩ := hrun
    cases herror
  exact ⟨_, rfl, by decide +kernel, hrefused _⟩

end Session

end Chip8
