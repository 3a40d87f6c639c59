import Chip8.Proofs.Stopped
import Chip8.Proofs.Ticks

set_option autoImplicit false

/-!
# Frames of ticks

A run without a screen goes on past a fault and reports it only at its end. Frames of ticks stop at
the first fault and report it there. Both report the same: the machine at the end of the run, asked
for its fault, answers what the ticks report, and shows the display of the machine whose tick
reported it.

## Main definitions

* `Chip8.Machine.tickFrame`, `Chip8.Machine.tickFrames` — frames of ticks, up to the first tick that
  reports a fault.
* `Chip8.Machine.FaultsAt` — the machine whose tick is the first to report a fault.

## Main results

* `Chip8.Machine.tickFrames_eq_error_iff` — frames of ticks report a fault exactly if there is a
  first tick that does.
* `Chip8.Machine.checked_repeat_frame` — a run without a screen reports what frames of ticks report.
* `Chip8.Machine.display_of_faultsAt` — a run without a screen ends with the display at its fault.
-/

namespace Chip8.Machine

/-- A frame of ticks: its ticks, up to the first that reports a fault, and then one period of the
timers. -/
def tickFrame (s : Machine) (perFrame : ℕ) : Except Fault Machine :=
  (s.ticks perFrame).map decrementTimers

/-- A number of frames of ticks, up to the first tick that reports a fault. -/
def tickFrames (s : Machine) (perFrame : ℕ) : ℕ → Except Fault Machine
  | 0 => .ok s
  | frames + 1 => (s.tickFrames perFrame frames).bind fun s' => s'.tickFrame perFrame

/-- In a number of frames of ticks, `last` is the machine whose tick is the first to report a fault:
some frames are gone through, then some ticks of the next one, and the tick after these reports. -/
def FaultsAt (s : Machine) (perFrame frames : ℕ) (last : Machine) (fault : Fault) : Prop :=
  ∃ m < frames, ∃ k < perFrame, ∃ begun,
    s.tickFrames perFrame m = .ok begun ∧ begun.ticks k = .ok last ∧ last.tick = .error fault

/-- A frame reports what its ticks report. -/
lemma tickFrame_eq_error_iff {s : Machine} {perFrame : ℕ} {fault : Fault} :
    s.tickFrame perFrame = .error fault ↔ s.ticks perFrame = .error fault := by
  rw [tickFrame]
  cases s.ticks perFrame <;> simp [Except.map]

/-- **Frames of ticks report a fault exactly if there is a first tick that does.** -/
theorem tickFrames_eq_error_iff {s : Machine} {perFrame frames : ℕ} {fault : Fault} :
    s.tickFrames perFrame frames = .error fault ↔
      ∃ last, s.FaultsAt perFrame frames last fault := by
  have hrow : s.tickFrames perFrame frames = .error fault ↔ ∃ m < frames, ∃ begun,
      s.tickFrames perFrame m = .ok begun ∧ begun.tickFrame perFrame = .error fault :=
    row_eq_error_iff (s.tickFrames perFrame) rfl fun _ => rfl
  rw [hrow]
  constructor
  · rintro ⟨m, hm, begun, hbegun, hframe⟩
    obtain ⟨k, hk, last, hticks, htick⟩ := ticks_eq_error_iff.mp (tickFrame_eq_error_iff.mp hframe)
    exact ⟨last, m, hm, k, hk, begun, hbegun, hticks, htick⟩
  · rintro ⟨last, m, hm, k, hk, begun, hbegun, hticks, htick⟩
    exact ⟨m, hm, begun, hbegun,
      tickFrame_eq_error_iff.mpr (ticks_eq_error_iff.mpr ⟨k, hk, last, hticks, htick⟩)⟩

/-- Frames of ticks that report nothing go through the frames of a run, and leave the machine
running. -/
lemma repeat_frame_of_tickFrames {s s' : Machine} (hs : s.fault = none) {perFrame frames : ℕ}
    (h : s.tickFrames perFrame frames = .ok s') :
    frames.repeat (frame perFrame) s = s' ∧ s'.fault = none := by
  induction frames generalizing s' with
  | zero =>
    cases h
    exact ⟨rfl, hs⟩
  | succ frames ih =>
    rw [tickFrames] at h
    cases hbefore : s.tickFrames perFrame frames with
    | error fault =>
      rw [hbefore] at h
      cases h
    | ok before =>
      obtain ⟨hrepeat, hhealthy⟩ := ih hbefore
      rw [hbefore, Except.bind, tickFrame] at h
      cases hticks : before.ticks perFrame with
      | error fault =>
        rw [hticks] at h
        cases h
      | ok after =>
        obtain ⟨rfl, hnone⟩ := (ticks_eq_ok_iff hhealthy).mp hticks
        rw [hticks] at h
        cases h
        exact ⟨by rw [Nat.repeat, hrepeat, frame], hnone⟩

/-- A run in which a tick would report a fault ends with the machine that the cycle of the first
such tick stopped, some periods of the timers later.

**Proof sketch.** The frames before that of the fault are those of the run. The rest of its frame
does not move the machine any more, and the later frames move only the timers. -/
lemma repeat_frame_of_faultsAt {s last : Machine} (hs : s.fault = none) {perFrame frames : ℕ}
    {fault : Fault} (h : s.FaultsAt perFrame frames last fault) :
    ∃ periods, frames.repeat (frame perFrame) s = last.step.decayed periods := by
  obtain ⟨m, hm, k, hk, begun, hbegun, hticks, htick⟩ := h
  obtain ⟨hwhole, hhealthy⟩ := repeat_frame_of_tickFrames hs hbegun
  have hcycle : begun.runSteps (k + 1) = last.step :=
    runSteps_of_tick_eq_error hhealthy hticks htick (Nat.lt_succ_self k)
  obtain ⟨rest, rfl⟩ := Nat.exists_eq_add_of_lt hm
  rcases last.tick_cases with ⟨r, hr, -⟩ | ⟨-, htick'⟩
  · refine ⟨rest + 1, ?_⟩
    have hfault : (begun.runSteps (k + 1)).fault = some r := by rw [hcycle, hr]
    rw [Nat.add_assoc, repeat_add, hwhole, repeat_succ, frame_of_stops hk hfault, hcycle,
      ← repeat_succ, repeat_frame_of_fault hr]
  · cases htick.symm.trans htick'

/-- **A run without a screen reports what frames of ticks report**, for every machine that has not
stopped before, every number of frames and every length of a frame. -/
theorem checked_repeat_frame {s : Machine} (hs : s.fault = none) (perFrame frames : ℕ) :
    (frames.repeat (frame perFrame) s).checked = s.tickFrames perFrame frames := by
  cases hframes : s.tickFrames perFrame frames with
  | ok s' =>
    obtain ⟨hrepeat, hnone⟩ := repeat_frame_of_tickFrames hs hframes
    rw [hrepeat, checked, hnone]
  | error fault =>
    obtain ⟨last, hlast⟩ := tickFrames_eq_error_iff.mp hframes
    obtain ⟨periods, hrepeat⟩ := repeat_frame_of_faultsAt hs hlast
    obtain ⟨m, -, k, -, begun, -, -, htick⟩ := hlast
    rcases last.tick_cases with ⟨r, hr, hreport⟩ | ⟨-, htick'⟩
    · have hfault : (last.step.decayed periods).fault = some r := hr
      rw [hrepeat, checked, hfault]
      exact hreport.symm.trans htick
    · cases htick.symm.trans htick'

/-- **A run without a screen ends with the display at its fault**: neither the cycle that stops the
machine nor anything after it draws. -/
theorem display_of_faultsAt {s last : Machine} (hs : s.fault = none) {perFrame frames : ℕ}
    {fault : Fault} (h : s.FaultsAt perFrame frames last fault) :
    (frames.repeat (frame perFrame) s).display = last.display := by
  obtain ⟨periods, hrepeat⟩ := repeat_frame_of_faultsAt hs h
  obtain ⟨m, -, k, -, begun, hbegun, hticks, htick⟩ := h
  have hhealthy : last.fault = none :=
    ((ticks_eq_ok_iff (repeat_frame_of_tickFrames hs hbegun).2).mp hticks).2
  rw [hrepeat]
  show last.step.display = last.display
  rcases last.tick_cases with ⟨r, hr, -⟩ | ⟨-, htick'⟩
  · rw [step_eq_of_stops hhealthy hr]
  · cases htick.symm.trans htick'

end Chip8.Machine
