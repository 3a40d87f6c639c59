import Chip8.Proofs.Frames

set_option autoImplicit false

/-!
# Machines that stop in a run

A machine that stops in a run without a screen is not frozen. No later cycle moves it, but the run
goes on to its last frame, and every frame that ends after the fault, its own included, takes one
more period off the timers. The machine at the end of the run is the one at the fault only if both
timers had run out by then.

## Main definitions

* `Chip8.Machine.decayed` — a machine with its timers a number of periods later.
* `Chip8.Machine.afterCycles` — the machine after the first cycles of a run.
* `Chip8.Machine.StopsIn` — the cycle of a run that stops the machine.

## Main results

* `Chip8.Machine.repeat_frame_of_stopsIn` — a machine that stops in a run stays as it is, but for
  its timers.
* `Chip8.Machine.operate_runHeadless_of_stopsIn` — what becomes of a machine that stops in a run.
-/

namespace Chip8.Machine

/-! ## Timers that run on -/

/-- A machine with its timers a number of periods later; they count down as far as zero. -/
def decayed (s : Machine) (periods : ℕ) : Machine :=
  { s with
    delayTimer := UInt8.ofNat (s.delayTimer.toNat - periods)
    soundTimer := UInt8.ofNat (s.soundTimer.toNat - periods) }

/-- Counting a timer down by one. -/
lemma countDown_eq (t : UInt8) : (if 0 < t then t - 1 else t) = UInt8.ofNat (t.toNat - 1) := by
  have hlt := t.toNat_lt
  apply UInt8.toNat.inj
  rw [UInt8.toNat_ofNat', Nat.mod_eq_of_lt (by omega)]
  split
  case isTrue hpos =>
    have hone : (1 : UInt8) ≤ t := UInt8.le_iff_toNat_le.mpr (UInt8.lt_iff_toNat_lt.mp hpos)
    exact UInt8.toNat_sub_of_le t 1 hone
  case isFalse hzero =>
    have hle : ¬0 < t.toNat := fun hpos => hzero (UInt8.lt_iff_toNat_lt.mpr hpos)
    omega

/-- A period of the timers. -/
lemma decrementTimers_eq (s : Machine) : s.decrementTimers = s.decayed 1 := by
  simp only [decrementTimers, decayed, countDown_eq]

/-- No time passes. -/
@[simp] lemma decayed_zero (s : Machine) : s.decayed 0 = s := by
  simp only [decayed, Nat.sub_zero, UInt8.ofNat_toNat]

/-- The timers run on after they ran. -/
lemma decayed_decayed (s : Machine) (m n : ℕ) : (s.decayed m).decayed n = s.decayed (m + n) := by
  have hlater : ∀ t : UInt8, UInt8.ofNat ((UInt8.ofNat (t.toNat - m)).toNat - n) =
      UInt8.ofNat (t.toNat - (m + n)) := by
    intro t
    have hlt := t.toNat_lt
    rw [UInt8.toNat_ofNat', Nat.mod_eq_of_lt (by omega), Nat.sub_sub]
  simp only [decayed, hlater]

/-- Only timers that have run out are the same some periods later. -/
lemma decayed_eq_self_iff {s : Machine} {periods : ℕ} (h : 0 < periods) :
    s.decayed periods = s ↔ s.delayTimer = 0 ∧ s.soundTimer = 0 := by
  have hrunOut : ∀ t : UInt8, UInt8.ofNat (t.toNat - periods) = t → t = 0 := by
    intro t ht
    have hlt := t.toNat_lt
    have hnat := congrArg UInt8.toNat ht
    rw [UInt8.toNat_ofNat', Nat.mod_eq_of_lt (by omega)] at hnat
    exact UInt8.toNat.inj (show t.toNat = 0 by omega)
  constructor
  · intro hself
    exact ⟨hrunOut _ (congrArg delayTimer hself), hrunOut _ (congrArg soundTimer hself)⟩
  · rintro ⟨hdelay, hsound⟩
    have hzero : ∀ n, (UInt8.ofNat ((0 : UInt8).toNat - n)) = 0 := fun n => by
      rw [UInt8.toNat_zero, Nat.zero_sub]
      rfl
    cases s
    simp only at hdelay hsound
    subst hdelay hsound
    simp only [decayed, hzero]

/-! ## Frames of a machine that has stopped -/

/-- Once the machine has stopped, the other cycles of its frame do not move it: the frame ends as if
it had begun with the machine that stopped. -/
lemma frame_of_stops {s : Machine} {r : FaultRecord} {j perFrame : ℕ} (hj : j ≤ perFrame)
    (h : (s.runSteps j).fault = some r) : s.frame perFrame = (s.runSteps j).frame perFrame := by
  obtain ⟨rest, rfl⟩ := Nat.exists_eq_add_of_le hj
  have hstays := runSteps_of_step_eq (step_of_fault h)
  rw [frame, frame, runSteps_add, hstays, hstays]

/-- Frames without a screen move only the timers of a machine that has stopped. -/
lemma repeat_frame_of_fault {s : Machine} {r : FaultRecord} (h : s.fault = some r)
    (perFrame frames : ℕ) : frames.repeat (frame perFrame) s = s.decayed frames := by
  induction frames with
  | zero => exact s.decayed_zero.symm
  | succ frames ih =>
    have hfault : (s.decayed frames).fault = some r := h
    rw [Nat.repeat, ih, frame, runSteps_of_step_eq (step_of_fault hfault), decrementTimers_eq,
      decayed_decayed]

/-! ## The cycle that stops the machine -/

/-- The machine after the first cycles of a run, with the periods of the timers at the ends of
frames. -/
def afterCycles (s : Machine) (perFrame : ℤ) (k : ℕ) : Machine :=
  k.fold (fun i _ s => s.headlessCycle perFrame i) s

/-- Cycle `k` of a run, counted from zero, is the first that stops the machine, and `stopped` is the
machine that it leaves, before a period of the timers at the end of the frame. -/
structure StopsIn (s : Machine) (perFrame : ℤ) (k : ℕ) (stopped : Machine) : Prop where
  /-- The machine that the cycle leaves. -/
  machine : stopped = (s.afterCycles perFrame k).step
  /-- It has stopped. -/
  faulted : stopped.isFaulted = true
  /-- The earlier cycles left the machine running. -/
  first : ∀ j < k, (s.afterCycles perFrame j).step.isFaulted = false

/-- After some whole frames and some cycles of the next one. -/
lemma afterCycles_eq (s : Machine) {perFrame j : ℕ} (m : ℕ) (hj : j < perFrame) :
    s.afterCycles perFrame (m * perFrame + j) = (m.repeat (frame perFrame) s).runSteps j := by
  have hframes := runHeadless_eq_repeat s (show 1 ≤ perFrame by omega) m
  rw [runHeadless, ← Int.natCast_mul, Int.toNat_natCast, Int.toNat_natCast] at hframes
  rw [afterCycles, fold_headlessCycle s m hj, hframes]

/-- A machine that has stopped in some cycle of a run stays as the cycle left it, but for its
timers, which run on for one period in each frame that ends from then on.

**Proof sketch.** The frames before that of the fault are gone through. The rest of the frame does
not move the machine, so that the frame ends as one of a machine that has stopped, and so do all
frames after it. -/
lemma repeat_frame_of_stopsIn {s stopped : Machine} {perFrame k frames : ℕ}
    (hk : k < frames * perFrame) (h : s.StopsIn perFrame k stopped) :
    frames.repeat (frame perFrame) s = stopped.decayed (frames - k / perFrame) := by
  obtain ⟨r, hr⟩ := Option.isSome_iff_exists.mp h.faulted
  have hpos : 0 < perFrame := Nat.pos_of_lt_mul_left hk
  have hplace : k % perFrame < perFrame := Nat.mod_lt k hpos
  have hwhole : k / perFrame < frames := (Nat.div_lt_iff_lt_mul hpos).mpr hk
  have hcycle : stopped =
      ((k / perFrame).repeat (frame perFrame) s).runSteps (k % perFrame + 1) := by
    have hbefore := afterCycles_eq s (k / perFrame) hplace
    rw [Nat.div_add_mod'] at hbefore
    rw [h.machine, hbefore]
    rfl
  obtain ⟨rest, hrest⟩ := Nat.exists_eq_add_of_lt hwhole
  rw [Nat.add_assoc] at hrest
  have hleft : frames - k / perFrame = rest + 1 := by omega
  have hfault := hr
  rw [hcycle] at hfault
  rw [hleft, hrest, repeat_add, repeat_succ, frame_of_stops hplace hfault, ← hcycle, ← repeat_succ,
    repeat_frame_of_fault hr]

/-! ## Runs -/

/-- **What becomes of a machine that stops in a run.** If the frames can be run, which they can as
long as their cycles are counted, the run yields the machine at the fault with its timers run on, by
one period for each frame that ends from then on; this is the machine at the fault exactly if both
of its timers had run out. A run that cannot be made is refused. -/
theorem operate_runHeadless_of_stopsIn {host : Host} (hhost : host.CountsWords) (s : Machine)
    {frames perFrame : ℤ} {k : ℕ} {stopped : Machine} (hper : 1 ≤ perFrame)
    (hk : (k : ℤ) < frames * perFrame) (h : s.StopsIn perFrame k stopped) (showsProgress : Bool) :
    (Countable frames perFrame → Runnable host showsProgress frames perFrame) ∧
      if Runnable host showsProgress frames perFrame then
        ∃ last, s.operate host (.runHeadless frames perFrame showsProgress) = .ok last ∧
          last = stopped.decayed (frames.toNat - k / perFrame.toNat) ∧
          (last = stopped ↔ stopped.delayTimer = 0 ∧ stopped.soundTimer = 0)
      else
        ∃ error, s.operate host (.runHeadless frames perFrame showsProgress) = .error error := by
  have hframes : 0 ≤ frames := by
    by_contra hneg
    have := Int.mul_nonpos_of_nonpos_of_nonneg (show frames ≤ 0 by omega)
      (show 0 ≤ perFrame by omega)
    omega
  refine ⟨fun hcount => hcount.runnable hhost hframes hper showsProgress, ?_⟩
  have hrun := operate_runHeadless hhost s frames hper showsProgress
  split
  case isTrue hrunnable =>
    rw [if_pos hrunnable] at hrun
    refine ⟨_, hrun, ?_⟩
    lift frames to ℕ using hframes
    lift perFrame to ℕ using by omega
    rw [← Int.natCast_mul, Int.ofNat_lt] at hk
    have hpos : 0 < perFrame := by omega
    have hwhole : k / perFrame < frames := (Nat.div_lt_iff_lt_mul hpos).mpr hk
    rw [Int.toNat_natCast, Int.toNat_natCast, runHeadless_eq_repeat s (by omega),
      Int.toNat_natCast, repeat_frame_of_stopsIn hk h]
    exact ⟨rfl, decayed_eq_self_iff (Nat.sub_pos_of_lt hwhole)⟩
  case isFalse hrunnable => rwa [if_neg hrunnable] at hrun

/-- A program that sets the delay timer to five and then meets an undefined word, in the third cycle
of its first frame: three frames end from then on, and two periods are left. -/
theorem operate_runHeadless_of_stopsIn_countdown :
    ∃ s stopped, boot 0 [0x60, 0x05, 0xF0, 0x15, 0x00, 0x00] = .ok s ∧ s.StopsIn 4 2 stopped ∧
      stopped.delayTimer = 5 ∧
      ∃ last, s.operate .standard (.runHeadless 3 4 true) = .ok last ∧
        last = stopped.decayed 3 ∧ last.delayTimer = 2 := by
  have hrun : ∀ s stopped : Machine, s.StopsIn 4 2 stopped → stopped.delayTimer = 5 →
      s.StopsIn 4 2 stopped ∧ stopped.delayTimer = 5 ∧
        ∃ last, s.operate .standard (.runHeadless 3 4 true) = .ok last ∧
          last = stopped.decayed 3 ∧ last.delayTimer = 2 := by
    intro s stopped hstop hdelay
    have hcycle : ((2 : ℕ) : ℤ) < 3 * 4 := by decide
    obtain ⟨hcounted, hlast⟩ := operate_runHeadless_of_stopsIn Host.countsWords_standard s
      (by decide) hcycle hstop true
    rw [if_pos (hcounted (by decide))] at hlast
    obtain ⟨last, hoperate, heq, -⟩ := hlast
    refine ⟨hstop, hdelay, last, hoperate, heq, ?_⟩
    have htimer : last.delayTimer = UInt8.ofNat (stopped.delayTimer.toNat - 3) :=
      congrArg delayTimer heq
    rw [htimer, hdelay]
    rfl
  exact ⟨_, _, rfl, hrun _ _ ⟨rfl, by decide +kernel, by decide +kernel⟩ (by decide +kernel)⟩

/-- The same program in one frame: the machine stops with five periods left, and the run returns it
with four. -/
theorem exists_run_past_fault :
    ∃ s stopped last, boot 0 [0x60, 0x05, 0xF0, 0x15, 0x00, 0x00] = .ok s ∧
      s.StopsIn 4 2 stopped ∧ s.operate .standard (.runHeadless 1 4 true) = .ok last ∧
      stopped.delayTimer = 5 ∧ last.delayTimer = 4 ∧ last ≠ stopped := by
  have hdiffer : ∀ stopped last : Machine, stopped.delayTimer = 5 → last.delayTimer = 4 →
      stopped.delayTimer = 5 ∧ last.delayTimer = 4 ∧ last ≠ stopped := by
    intro stopped last hfive hfour
    refine ⟨hfive, hfour, fun heq => ?_⟩
    rw [heq, hfive] at hfour
    cases hfour
  exact ⟨_, _, _, rfl, ⟨rfl, by decide +kernel, by decide +kernel⟩,
    operate_runHeadless_of_countable Host.countsWords_standard _ (by decide) (by decide)
      (by decide) true,
    hdiffer _ _ (by decide +kernel) (by decide +kernel)⟩

end Chip8.Machine
