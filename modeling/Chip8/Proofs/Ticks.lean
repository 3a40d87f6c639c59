import Chip8.Proofs.Frames

set_option autoImplicit false

/-!
# Ticks

A tick is a cycle that reports the fault which stops the machine, and leaves the machine as it was
then. Cycles in a row report nothing: they keep the fault on record, and the machine stays as it is
from there on. Both go through the same cycles up to the same fault.

## Main definitions

* `Chip8.Machine.ticks` — a number of ticks in a row, up to the first that reports a fault.
* `Chip8.Machine.TickWise` — cycles in a row do what ticks do.

## Main results

* `Chip8.Machine.ticks_eq_ok_iff` — ticks in a row succeed exactly if the cycles leave the machine
  running.
* `Chip8.Machine.tickWise` — cycles in a row do what ticks do, for every machine.
-/

namespace Chip8.Machine

/-- Steps in a row, up to the first that reports an error: the row reports an error exactly if a
step after others that did not reports it. -/
lemma row_eq_error_iff {ε σ : Type} (row : ℕ → Except ε σ) {step : σ → Except ε σ} {start : σ}
    (hzero : row 0 = .ok start) (hsucc : ∀ n, row (n + 1) = (row n).bind step) {n : ℕ}
    {error : ε} :
    row n = .error error ↔ ∃ i < n, ∃ s, row i = .ok s ∧ step s = .error error := by
  induction n with
  | zero => simp [hzero]
  | succ n ih =>
    rw [hsucc]
    constructor
    · intro h
      cases hrow : row n with
      | ok s =>
        rw [hrow] at h
        exact ⟨n, Nat.lt_succ_self n, s, hrow, h⟩
      | error error' =>
        rw [hrow] at h
        cases h
        obtain ⟨i, hi, hfirst⟩ := ih.mp hrow
        exact ⟨i, Nat.lt_succ_of_lt hi, hfirst⟩
    · rintro ⟨i, hi, s, hrow, hstep⟩
      rcases Nat.lt_succ_iff_lt_or_eq.mp hi with hi | rfl
      · rw [ih.mpr ⟨i, hi, s, hrow, hstep⟩]
        rfl
      · rw [hrow]
        exact hstep

/-- A number of ticks in a row, up to the first that reports a fault. -/
def ticks (s : Machine) : ℕ → Except Fault Machine
  | 0 => .ok s
  | n + 1 => (s.ticks n).bind tick

/-- The last of several ticks. -/
lemma ticks_succ_of_ok {s s' : Machine} {n : ℕ} (h : s.ticks n = .ok s') :
    s.ticks (n + 1) = s'.tick := by
  rw [ticks, h]
  rfl

/-- A tick succeeds exactly if its cycle leaves the machine running. -/
lemma tick_eq_ok_iff {s s' : Machine} : s.tick = .ok s' ↔ s' = s.step ∧ s'.fault = none := by
  rcases s.tick_cases with ⟨r, hr, htick⟩ | ⟨hnone, htick⟩
  · rw [htick]
    constructor
    · intro h
      cases h
    · rintro ⟨rfl, hnone⟩
      cases hr.symm.trans hnone
  · rw [htick, Except.ok.injEq]
    constructor
    · rintro rfl
      exact ⟨rfl, hnone⟩
    · rintro ⟨rfl, -⟩
      rfl

/-- **Ticks in a row succeed exactly if the cycles leave the machine running**, and end where the
cycles end.

**Proof sketch.** By induction on the ticks. A machine that runs at the end ran before the last
cycle, since one that has stopped stays so. -/
theorem ticks_eq_ok_iff {s s' : Machine} (hs : s.fault = none) {n : ℕ} :
    s.ticks n = .ok s' ↔ s' = s.runSteps n ∧ s'.fault = none := by
  induction n generalizing s' with
  | zero =>
    rw [ticks, Except.ok.injEq]
    constructor
    · rintro rfl
      exact ⟨rfl, hs⟩
    · rintro ⟨rfl, -⟩
      rfl
  | succ n ih =>
    have hlast : s.runSteps (n + 1) = (s.runSteps n).step := rfl
    constructor
    · intro h
      cases hticks : s.ticks n with
      | error fault =>
        rw [ticks, hticks] at h
        cases h
      | ok before =>
        rw [ticks_succ_of_ok hticks] at h
        rw [hlast, ← (ih.mp hticks).1]
        exact tick_eq_ok_iff.mp h
    · rintro ⟨rfl, hnone⟩
      rw [hlast] at hnone ⊢
      have hticks := ih.mpr ⟨rfl, fault_eq_none_of_step hnone⟩
      rw [ticks_succ_of_ok hticks]
      exact tick_eq_ok_iff.mpr ⟨rfl, hnone⟩

/-- Ticks in a row report a fault exactly if there is a first tick that does. -/
lemma ticks_eq_error_iff {s : Machine} {n : ℕ} {fault : Fault} :
    s.ticks n = .error fault ↔ ∃ i < n, ∃ last, s.ticks i = .ok last ∧ last.tick = .error fault :=
  row_eq_error_iff s.ticks rfl fun _ => rfl

/-- A number of ticks either succeed, or there is a first among them that reports a fault. -/
lemma ticks_cases (s : Machine) (n : ℕ) :
    (∃ s', s.ticks n = .ok s') ∨
      ∃ i < n, ∃ s' fault, s.ticks i = .ok s' ∧ s'.tick = .error fault := by
  cases h : s.ticks n with
  | ok s' => exact .inl ⟨s', rfl⟩
  | error fault =>
    obtain ⟨i, hi, s', hticks, htick⟩ := ticks_eq_error_iff.mp h
    exact .inr ⟨i, hi, s', fault, hticks, htick⟩

/-- After the first tick that reports a fault, any number of cycles ends with the machine that the
cycle of this tick stopped. -/
lemma runSteps_of_tick_eq_error {s s' : Machine} (hs : s.fault = none) {i : ℕ} {fault : Fault}
    (hticks : s.ticks i = .ok s') (htick : s'.tick = .error fault) {m : ℕ} (hm : i < m) :
    s.runSteps m = s'.step := by
  obtain ⟨rfl, -⟩ := (ticks_eq_ok_iff hs).mp hticks
  rcases (s.runSteps i).tick_cases with ⟨r, hr, -⟩ | ⟨-, htick'⟩
  · obtain ⟨k, rfl⟩ := Nat.exists_eq_add_of_lt hm
    have hstays := runSteps_of_step_eq (step_of_fault hr) k
    rwa [Nat.add_right_comm, runSteps_add]
  · cases htick.symm.trans htick'

/-- Cycles in a row do what ticks do. -/
structure TickWise (s : Machine) : Prop where
  /-- Ticks succeed, or there is a first that reports a fault. -/
  decided : ∀ n, (∃ s', s.ticks n = .ok s') ∨
    ∃ i < n, ∃ s' fault, s.ticks i = .ok s' ∧ s'.tick = .error fault
  /-- If the ticks of a machine that runs succeed, as many cycles end where they end, and the
  machine still runs. -/
  succeeded : s.fault = none → ∀ n s', s.ticks n = .ok s' → s.runSteps n = s' ∧ s'.fault = none
  /-- If one tick is the first to report a fault, all greater numbers of cycles end with the same
  machine: it has stopped, reports the same fault, and is the machine after the earlier ticks but
  for the record of it. -/
  raised : s.fault = none → ∀ i s' fault, s.ticks i = .ok s' → s'.tick = .error fault →
    ∃ stopped : Machine, stopped.isFaulted = true ∧ (∀ m, i < m → s.runSteps m = stopped) ∧
      { stopped with fault := none } = s' ∧ stopped.checked = .error fault
  /-- A machine that has stopped reports its fault at once, and cycles leave it as it is. -/
  stopped : ∀ r, s.fault = some r → s.tick = .error r.report ∧ ∀ n, s.runSteps n = s
  /-- Cycles are continued where they ended. -/
  continued : ∀ m n, s.runSteps (m + n) = (s.runSteps m).runSteps n

/-- **Cycles in a row do what ticks do**, for every machine and every number of cycles.

**Proof sketch.** Ticks that succeed go through the cycles. The cycle of the first tick that reports
a fault makes the record and nothing else, and a machine that has stopped stays as it is. -/
theorem tickWise (s : Machine) : s.TickWise where
  decided := s.ticks_cases
  succeeded := by
    intro hs n s' hticks
    obtain ⟨rfl, hnone⟩ := (ticks_eq_ok_iff hs).mp hticks
    exact ⟨rfl, hnone⟩
  raised := by
    intro hs i s' fault hticks htick
    have hhealthy : s'.fault = none := ((ticks_eq_ok_iff hs).mp hticks).2
    rcases s'.tick_cases with ⟨r, hr, hreport⟩ | ⟨-, htick'⟩
    · refine ⟨s'.step, by rw [isFaulted, hr]; rfl,
        fun m him => runSteps_of_tick_eq_error hs hticks htick him, ?_, htick⟩
      rw [step_eq_of_stops hhealthy hr, ← hhealthy]
    · cases htick.symm.trans htick'
  stopped := by
    intro r hr
    refine ⟨?_, runSteps_of_step_eq (step_of_fault hr)⟩
    rw [tick, step_of_fault hr, checked, hr]
  continued := s.runSteps_add

end Chip8.Machine
