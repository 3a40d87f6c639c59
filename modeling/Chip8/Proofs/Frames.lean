import Chip8.Proofs.Hosts
import Chip8.Proofs.Run

set_option autoImplicit false

/-!
# Frames without a screen

The flat loop over all cycles of a run is a loop over frames: the cycles of a frame, then one period
of the timers. The cycles can be counted as long as the length of a frame and the number of all
cycles are words of thirty-two bits. A progress bar changes nothing about this, except for negative
numbers of frames. Of more cycles a run is refused if it has a progress bar, and otherwise if the
host does not lay out the loop.

## Main definitions

* `Chip8.Machine.frame` — a frame without a screen.
* `Chip8.Machine.Countable`, `Chip8.Machine.CountableWith` — the cycles of a number of frames can be
  counted, in the second case with or without a progress bar.
* `Chip8.Machine.Runnable` — a number of frames can be run on a host.
* `Chip8.Progress.Reportable` — what a report compares are words of thirty-two bits.
* `Chip8.Machine.FrameWise` — runs are frames one after the other.

## Main results

* `Chip8.Machine.runHeadless_eq_repeat` — the flat loop is a loop over frames.
* `Chip8.Machine.operate_runHeadless` — which runs are refused.
* `Chip8.Machine.frameWise` — runs are frames one after the other, as far as they can be counted.
-/

namespace Chip8.Machine

/-! ## Cycles in a row -/

/-- The first of several cycles. -/
lemma runSteps_succ (s : Machine) (n : ℕ) : s.runSteps (n + 1) = s.step.runSteps n :=
  repeat_succ step n s

/-- Cycles in a row are continued where they ended. -/
lemma runSteps_add (s : Machine) (m n : ℕ) :
    s.runSteps (m + n) = (s.runSteps m).runSteps n :=
  repeat_add step m n s

/-- A machine that a cycle leaves as it is stays so for any number of cycles. -/
lemma runSteps_of_step_eq {s : Machine} (h : s.step = s) (n : ℕ) : s.runSteps n = s := by
  induction n with
  | zero => rfl
  | succ n ih => rw [runSteps_succ, h, ih]

/-! ## Frames -/

/-- A frame without a screen: its cycles, then one period of the timers. -/
def frame (perFrame : ℕ) (s : Machine) : Machine :=
  (s.runSteps perFrame).decrementTimers

/-- The place of a cycle in its frame. -/
lemma fmod_cycle {perFrame k : ℕ} (m : ℕ) (h : k < perFrame) :
    Int.fmod ((m * perFrame + k : ℕ) : ℤ) perFrame = k := by
  rw [Int.fmod_eq_emod_of_nonneg _ (Int.natCast_nonneg perFrame), ← Int.natCast_mod,
    Nat.mul_add_mod_self_right, Nat.mod_eq_of_lt h]

/-- The loop inside a frame, up to but without its last cycle. -/
lemma fold_headlessCycle (s : Machine) {perFrame k : ℕ} (m : ℕ) (h : k < perFrame) :
    (m * perFrame + k).fold (fun i _ s => s.headlessCycle perFrame i) s =
      ((m * perFrame).fold (fun i _ s => s.headlessCycle perFrame i) s).runSteps k := by
  induction k with
  | zero => rfl
  | succ k ih =>
    have hinner : ¬(k : ℤ) = perFrame - 1 := by omega
    rw [← Nat.add_assoc, Nat.fold_succ, ih (by omega), headlessCycle, fmod_cycle m (by omega),
      if_neg hinner]
    rfl

/-- **The flat loop is a loop over frames.**

**Proof sketch.** By induction on the frames: all cycles of a frame but the last are plain cycles,
and the last is followed by a period of the timers. -/
theorem runHeadless_eq_repeat (s : Machine) {perFrame : ℕ} (h : 1 ≤ perFrame) (frames : ℤ) :
    s.runHeadless frames perFrame = frames.toNat.repeat (frame perFrame) s := by
  have htotal : (frames * perFrame).toNat = frames.toNat * perFrame := by
    rcases le_total 0 frames with hframes | hframes
    · lift frames to ℕ using hframes
      rw [← Int.natCast_mul, Int.toNat_natCast, Int.toNat_natCast]
    · have hprod : frames * perFrame ≤ 0 :=
        Int.mul_nonpos_of_nonpos_of_nonneg hframes (Int.natCast_nonneg perFrame)
      rw [Int.toNat_of_nonpos hprod, Int.toNat_of_nonpos hframes, Nat.zero_mul]
  rw [runHeadless, htotal]
  induction frames.toNat with
  | zero => rw [Nat.zero_mul]; rfl
  | succ m ih =>
    obtain ⟨k, rfl⟩ : ∃ k, perFrame = k + 1 := ⟨perFrame - 1, by omega⟩
    have hlast : Int.fmod ((m * (k + 1) + k : ℕ) : ℤ) ((k + 1 : ℕ) : ℤ) =
        ((k + 1 : ℕ) : ℤ) - 1 := by
      rw [fmod_cycle m (by omega)]
      omega
    rw [Nat.succ_mul, ← Nat.add_assoc, Nat.fold_succ, fold_headlessCycle s m (by omega), ih,
      headlessCycle, if_pos hlast]
    rfl

/-! ## Counting -/

/-- The cycles of a number of frames can be counted: neither the length of a frame nor their number
exceeds the words of thirty-two bits. -/
def Countable (frames perFrame : ℤ) : Prop :=
  perFrame < 0x80000000 ∧ frames * perFrame < 0x80000000

instance (frames perFrame : ℤ) : Decidable (Countable frames perFrame) :=
  inferInstanceAs (Decidable (_ ∧ _))

/-- The same with or without a progress bar. A bar also looks out for the number of the last cycle,
which for a negative number of frames must not be too far below zero. -/
def CountableWith (showsProgress : Bool) (frames perFrame : ℤ) : Prop :=
  Countable frames perFrame ∧ (showsProgress = true → -0x80000000 < frames * perFrame)

instance (showsProgress : Bool) (frames perFrame : ℤ) :
    Decidable (CountableWith showsProgress frames perFrame) :=
  inferInstanceAs (Decidable (_ ∧ _))

/-- A number of frames can be run on a host. With a progress bar all cycles have to be counted.
Without one only the cycles of a frame are, and the loop over all of them has to be laid out. -/
def Runnable (host : Host) (showsProgress : Bool) (frames perFrame : ℤ) : Prop :=
  perFrame < 0x80000000 ∧
    if showsProgress then -0x80000000 < frames * perFrame ∧ frames * perFrame < 0x80000000
    else host.loopHindrance? (frames * perFrame) = none

instance (host : Host) (showsProgress : Bool) (frames perFrame : ℤ) :
    Decidable (Runnable host showsProgress frames perFrame) :=
  inferInstanceAs (Decidable (_ ∧ _))

/-- A bar makes no difference unless the number of frames is negative. -/
lemma countableWith_iff {frames perFrame : ℤ} (hframes : 0 ≤ frames) (hper : 1 ≤ perFrame)
    (showsProgress : Bool) :
    CountableWith showsProgress frames perFrame ↔ Countable frames perFrame := by
  have hnonneg : 0 ≤ frames * perFrame := Int.mul_nonneg hframes (by omega)
  rw [CountableWith, and_iff_left]
  intro
  omega

/-- Frames whose cycles can be counted can be run. -/
lemma CountableWith.runnable {host : Host} (hhost : host.CountsWords) {showsProgress : Bool}
    {frames perFrame : ℤ} (h : CountableWith showsProgress frames perFrame) :
    Runnable host showsProgress frames perFrame := by
  refine ⟨h.1.1, ?_⟩
  cases showsProgress with
  | false => exact hhost _ h.1.2
  | true => exact ⟨h.2 rfl, h.1.2⟩

/-- Frames whose cycles can be counted can be run, with a progress bar as without. -/
lemma Countable.runnable {host : Host} (hhost : host.CountsWords) {frames perFrame : ℤ}
    (hframes : 0 ≤ frames) (hper : 1 ≤ perFrame) (h : Countable frames perFrame)
    (showsProgress : Bool) : Runnable host showsProgress frames perFrame :=
  ((countableWith_iff hframes hper showsProgress).mpr h).runnable hhost

/-- A number that is not negative is a word of thirty-two bits if it does not exceed them. -/
lemma fits32_of_nonneg {n : ℤ} (h : 0 ≤ n) : Word.fits32 n = decide (n < 0x80000000) := by
  rw [Word.fits32, decide_eq_decide]
  omega

/-- A number of cycles within thirty-two bits has a numeral that can be written. -/
lemma isWritable_of_lt {n : ℤ} (h : -0x80000000 < n) (hn : n < 0x80000000) :
    Decimal.isWritable n = true := by
  have hdigits : 10 ≤ Decimal.mostDigits := by decide
  have hpow : 10 ^ 10 ≤ 10 ^ Decimal.mostDigits := Nat.pow_le_pow_right (by decide) hdigits
  rw [Decimal.isWritable, decide_eq_true_eq, Nat.pow_eq]
  omega

/-- The length of a frame is counted exactly if it is a word of thirty-two bits. -/
lemma frameOverflow?_eq_none_iff {perFrame : ℤ} (h : 1 ≤ perFrame) :
    frameOverflow? perFrame = none ↔ perFrame < 0x80000000 := by
  rw [frameOverflow?, fits32_of_nonneg (by omega), fits32_of_nonneg (by omega)]
  by_cases hlt : perFrame < 0x80000000
  · have hlt' : perFrame - 1 < 0x80000000 := by omega
    simp [hlt, hlt']
  · simp [hlt]

end Machine

namespace Progress

variable {α : Type} {host : Host}

/-- The numbers that a report compares are words of thirty-two bits: the size of a chunk, the total
unless it is made of chunks, and the number of the last iteration. -/
def Reportable (p : Progress α) : Prop :=
  Word.fits32 p.chunk = true ∧ (p.total % p.chunk ≠ 0 → Word.fits32 p.total = true) ∧
    Word.fits32 (p.total - 1) = true

instance (p : Progress α) : Decidable p.Reportable :=
  inferInstanceAs (Decidable (_ ∧ _))

/-- What a report compares keeps a loop from being gone through exactly if it is no word. -/
lemma reportable_iff {p : Progress α} :
    p.Reportable ↔ p.openingOverflow? = none ∧ p.closingOverflow? = none := by
  simp only [Reportable, openingOverflow?, closingOverflow?]
  cases Word.fits32 p.chunk <;> cases Word.fits32 p.total <;>
    cases Word.fits32 (p.total - 1) <;> by_cases hrest : p.total % p.chunk = 0 <;> simp [hrest]

/-- What keeps a loop with a report from being gone through: its comparisons, its work, or the
host. -/
lemma hindrance?_eq_none_iff {p : Progress α} {work : Option Overflow} :
    p.hindrance? host work = none ↔
      p.Reportable ∧ work = none ∧ host.loopHindrance? p.total = none ∧ p.barHindrance? = none := by
  simp only [hindrance?, reportable_iff, Option.orElse_eq_orElse, Option.orElse_eq_or,
    Option.or_eq_none_iff, Option.map_eq_none_iff]
  tauto

/-- A report can be made on totals that are words of thirty-two bits, as far as the total below them
is one as well. Only one other total has a last iteration whose number is a word; it has to be made
of chunks. -/
lemma reportable_plan_iff {total : ℤ} {rate? : Option ℤ} {description? : Option String}
    {options : List (String × α)} :
    (plan total rate? description? options).Reportable ↔
      -0x80000000 < total ∧ total < 0x80000000 ∨
        total = 0x80000000 ∧ chunkSize total rate? < 0x80000000 ∧
          total % chunkSize total rate? = 0 := by
  have hsize : 1 ≤ chunkSize total rate? ∧ chunkSize total rate? ≤ max 1 total := by
    cases rate? <;> rw [chunkSize] <;> omega
  show (Word.fits32 (chunkSize total rate?) = true ∧
    (total % chunkSize total rate? ≠ 0 → Word.fits32 total = true) ∧
      Word.fits32 (total - 1) = true) ↔ _
  simp only [Word.fits32, decide_eq_true_eq]
  by_cases hrest : total % chunkSize total rate? = 0
  · simp only [hrest, ne_eq, not_true_eq_false, false_implies, true_and, and_true]
    omega
  · simp only [hrest, ne_eq, not_false_eq_true, true_implies, and_false, or_false]
    omega

/-- The plan for all cycles of a run has chunks of a thousand cycles at most. -/
lemma reportable_plan_none_iff {total : ℤ} {description? : Option String}
    {options : List (String × α)} :
    (plan total none description? options).Reportable ↔
      -0x80000000 < total ∧ total < 0x80000000 := by
  rw [reportable_plan_iff, or_iff_left]
  rintro ⟨rfl, -, hrest⟩
  exact absurd hrest (by decide)

/-- Nothing keeps the bar of a run from being opened. -/
lemma barHindrance?_plan (total : ℤ) (rate? : Option ℤ) (description? : Option String) :
    (plan total rate? description? ([] : List (String × α))).barHindrance? = none :=
  if_neg fun h => Bool.false_ne_true h.2

/-- A request for a report on the cycles of a run yields the plan for them, if their number can be
written. -/
lemma request_eq (total : ℤ) :
    (request total none none [] : Except Error (Progress α)) =
      if Decimal.isWritable total = true then .ok (plan total none none [])
      else .error (.tooManyDigits none) := by
  cases h : Decimal.isWritable total <;> simp [request, h]

end Progress

namespace Machine

variable {host : Host}

/-- Without a progress bar a run is refused if the cycles of a frame are not counted, or if the loop
is not laid out. -/
lemma headless_eq (s : Machine) (frames : ℤ) {perFrame : ℤ} (h : 1 ≤ perFrame) :
    if Runnable host false frames perFrame then
      s.headless host frames perFrame = .ok (s.runHeadless frames perFrame)
    else ∃ error, s.headless host frames perFrame = .error error := by
  have hframe := frameOverflow?_eq_none_iff h
  rw [headless]
  cases hcause : frameOverflow? perFrame with
  | some cause =>
    rw [if_neg fun hrun => by simp [hframe.mpr hrun.1] at hcause]
    exact ⟨_, rfl⟩
  | none =>
    cases hloop : host.loopHindrance? (frames * perFrame) with
    | none => rw [if_pos ⟨hframe.mp hcause, hloop⟩]; rfl
    | some error =>
      rw [if_neg fun hrun => by simp [show host.loopHindrance? _ = none from hrun.2] at hloop]
      exact ⟨error, rfl⟩

/-- With a progress bar a run is refused if its cycles are not counted. -/
lemma headlessWithProgress_eq {α : Type} (hhost : host.CountsWords) (s : Machine) (frames : ℤ)
    {perFrame : ℤ} (h : 1 ≤ perFrame) :
    if Runnable host true frames perFrame then
      ∃ bar? : Option (Bar α),
        s.headlessWithProgress host frames perFrame = .ok (s.runHeadless frames perFrame, bar?)
    else ∃ error, (s.headlessWithProgress host frames perFrame :
      Except Error (Machine × Option (Bar α))) = .error error := by
  have hhindrance : (Progress.plan (frames * perFrame) none none [] : Progress α).hindrance? host
      (frameOverflow? perFrame) = none ↔ Runnable host true frames perFrame := by
    rw [Progress.hindrance?_eq_none_iff, Progress.reportable_plan_none_iff,
      frameOverflow?_eq_none_iff h]
    constructor
    · rintro ⟨hwords, hframe, -⟩
      exact ⟨hframe, hwords⟩
    · rintro ⟨hframe, hwords⟩
      exact ⟨hwords, hframe, hhost _ hwords.2, Progress.barHindrance?_plan _ none none⟩
  rw [headlessWithProgress, Progress.request_eq]
  by_cases hrun : Runnable host true frames perFrame
  · rw [if_pos hrun, if_pos (isWritable_of_lt hrun.2.1 hrun.2.2), ok_bind, Progress.perform,
      hhindrance.mpr hrun, Progress.scan]
    refine ⟨_, congrArg Except.ok (Prod.ext ?_ rfl)⟩
    exact Progress.fst_scanFirst _ _ s _
  · rw [if_neg hrun]
    split
    case isTrue =>
      rw [ok_bind, Progress.perform]
      split
      case h_1 error _ => exact ⟨error, rfl⟩
      case h_2 hnone => exact absurd (hhindrance.mp hnone) hrun
    case isFalse => exact ⟨_, rfl⟩

/-- **A run is refused exactly if it cannot be run on its host**, and goes through all its frames
otherwise. -/
theorem operate_runHeadless (hhost : host.CountsWords) (s : Machine) (frames : ℤ) {perFrame : ℤ}
    (h : 1 ≤ perFrame) (showsProgress : Bool) :
    if Runnable host showsProgress frames perFrame then
      s.operate host (.runHeadless frames perFrame showsProgress) =
        .ok (s.runHeadless frames perFrame)
    else ∃ error, s.operate host (.runHeadless frames perFrame showsProgress) = .error error := by
  cases showsProgress with
  | false => exact s.headless_eq frames h
  | true =>
    have hbar := headlessWithProgress_eq (α := Empty) hhost s frames h
    rw [operate, ranHeadless, if_pos rfl]
    split
    case isTrue hrun =>
      rw [if_pos hrun] at hbar
      obtain ⟨bar?, hbar⟩ := hbar
      rw [hbar]
      rfl
    case isFalse hrun =>
      rw [if_neg hrun] at hbar
      obtain ⟨error, hbar⟩ := hbar
      exact ⟨error, by rw [hbar]; rfl⟩

/-- A run comes to an end exactly if it can be run on its host. -/
lemma ranHeadless_eq_ok_iff (hhost : host.CountsWords) {s last : Machine} {frames perFrame : ℤ}
    (h : 1 ≤ perFrame) {showsProgress : Bool} :
    s.ranHeadless host showsProgress frames perFrame = .ok last ↔
      Runnable host showsProgress frames perFrame ∧ last = s.runHeadless frames perFrame := by
  have hrun := operate_runHeadless hhost s frames h showsProgress
  rw [operate] at hrun
  by_cases hrunnable : Runnable host showsProgress frames perFrame
  · rw [if_pos hrunnable] at hrun
    simp [hrun, hrunnable, eq_comm]
  · rw [if_neg hrunnable] at hrun
    obtain ⟨error, hrun⟩ := hrun
    simp [hrun, hrunnable]

/-- **Frames whose cycles can be counted are run**, with a progress bar as without. -/
theorem operate_runHeadless_of_countable (hhost : host.CountsWords) (s : Machine)
    {frames perFrame : ℤ} (hframes : 0 ≤ frames) (hper : 1 ≤ perFrame)
    (h : Countable frames perFrame) (showsProgress : Bool) :
    s.operate host (.runHeadless frames perFrame showsProgress) =
      .ok (s.runHeadless frames perFrame) := by
  have hrun := operate_runHeadless hhost s frames hper showsProgress
  rwa [if_pos (h.runnable hhost hframes hper showsProgress)] at hrun

/-- Frames longer than can be counted are refused on every host. -/
lemma not_runnable_of_le {perFrame : ℤ} (h : 0x80000000 ≤ perFrame) (showsProgress : Bool)
    (frames : ℤ) : ¬Runnable host showsProgress frames perFrame :=
  fun hrun => h.not_gt hrun.1

/-! ## Runs as frames one after the other -/

/-- Runs without a screen are frames one after the other, as far as their cycles can be counted. -/
structure FrameWise (host : Host) (s : Machine) (perFrame : ℤ) : Prop where
  /-- A run goes through its frames, with a progress bar as without. A negative number of frames is
  none. -/
  repeated : ∀ frames showsProgress, CountableWith showsProgress frames perFrame →
    s.operate host (.runHeadless frames perFrame showsProgress) =
      .ok (frames.toNat.repeat (frame perFrame.toNat) s)
  /-- Runs are continued where they ended. -/
  continued : ∀ first second, 0 ≤ first → 0 ≤ second → Countable (first + second) perFrame →
    ∀ showsFirst showsSecond showsProgress,
      s.operate host (.runHeadless (first + second) perFrame showsProgress) =
        (s.operate host (.runHeadless first perFrame showsFirst)).bind fun s' =>
          s'.operate host (.runHeadless second perFrame showsSecond)
  /-- Any other run either goes through its frames as well, or is refused. With a progress bar it is
  refused, and without one if its frames are too long or the host does not lay out the loop. -/
  decided : ∀ frames showsProgress,
    if Runnable host showsProgress frames perFrame then
      s.operate host (.runHeadless frames perFrame showsProgress) =
        .ok (frames.toNat.repeat (frame perFrame.toNat) s)
    else ∃ error, s.operate host (.runHeadless frames perFrame showsProgress) = .error error

/-- Parts of a run can be counted if the run can. -/
lemma Countable.of_le {frames frames' perFrame : ℤ} (h : Countable frames perFrame)
    (hper : 1 ≤ perFrame) (hle : frames' ≤ frames) : Countable frames' perFrame := by
  have hprod : frames' * perFrame ≤ frames * perFrame :=
    Int.mul_le_mul_of_nonneg_right hle (by omega)
  exact ⟨h.1, lt_of_le_of_lt hprod h.2⟩

/-- **Runs without a screen are frames one after the other**, for every machine, every length of a
frame and every host that counts iterations in words.

**Proof sketch.** A run that is not refused goes through the flat loop, which is the loop over
frames, and repetitions are continued where they ended. -/
theorem frameWise {host : Host} (hhost : host.CountsWords) (s : Machine) {perFrame : ℤ}
    (h : 1 ≤ perFrame) : FrameWise host s perFrame := by
  have hdecided (frames : ℤ) (showsProgress : Bool) :
      if Runnable host showsProgress frames perFrame then
        s.operate host (.runHeadless frames perFrame showsProgress) =
          .ok (frames.toNat.repeat (frame perFrame.toNat) s)
      else ∃ error, s.operate host (.runHeadless frames perFrame showsProgress) = .error error := by
    have hrun := operate_runHeadless hhost s frames h showsProgress
    lift perFrame to ℕ using by omega
    rwa [runHeadless_eq_repeat s (by omega)] at hrun
  refine
    { repeated := fun frames showsProgress hcount => ?_
      continued := fun first second hfirst hsecond hcount showsFirst showsSecond showsProgress => ?_
      decided := hdecided }
  · have hrun := hdecided frames showsProgress
    rwa [if_pos (hcount.runnable hhost)] at hrun
  · rw [operate_runHeadless_of_countable hhost s (by omega) h hcount,
      operate_runHeadless_of_countable hhost s hfirst h (hcount.of_le h (by omega)), Except.bind,
      operate_runHeadless_of_countable hhost _ hsecond h (hcount.of_le h (by omega))]
    lift perFrame to ℕ using by omega
    have hsum : (first + second).toNat = first.toNat + second.toNat := by omega
    rw [runHeadless_eq_repeat s (by omega), runHeadless_eq_repeat s (by omega),
      runHeadless_eq_repeat _ (by omega), hsum, repeat_add]

/-- A program that sets the delay timer to five and jumps in place: in frames of two cycles, of
which the second sets the timer, three frames leave two periods, also when one of them is run apart
with a progress bar. -/
theorem frameWise_countdown :
    ∃ s, boot 0 [0x60, 0x05, 0xF0, 0x15, 0x12, 0x04] = .ok s ∧ FrameWise .standard s 2 ∧
      ∃ last, s.operate .standard (.runHeadless 3 2 false) = .ok last ∧
        ((s.operate .standard (.runHeadless 1 2 true)).bind fun s' =>
          s'.operate .standard (.runHeadless 2 2 false)) = .ok last ∧ last.delayTimer = 2 := by
  refine ⟨_, rfl, frameWise Host.countsWords_standard _ (by decide), ?_⟩
  have hframes := fun s => frameWise Host.countsWords_standard s (by decide : (1 : ℤ) ≤ 2)
  have hrun := fun s => (hframes s).repeated 3 false (by decide)
  have hparts := fun s => (hframes s).continued 1 2 (by decide) (by decide) (by decide)
    true false false
  exact ⟨_, hrun _, (hparts _).symm.trans (hrun _), by decide +kernel⟩

/-- A frame may be longer than a run can count, and then the run is refused. So is a run of a
negative number of frames that a progress bar cannot count, although the same run without a bar does
nothing. -/
theorem exists_refused_frames :
    ∃ s, boot 0 [] = .ok s ∧
      (∀ showsProgress last,
        s.operate .standard (.runHeadless 1 0x80000000 showsProgress) ≠ .ok last) ∧
      s.operate .standard (.runHeadless (-2) 0x7FFFFFFF false) = .ok s ∧
      ∀ last, s.operate .standard (.runHeadless (-2) 0x7FFFFFFF true) ≠ .ok last := by
  have hrefused : ∀ (s last : Machine) {frames perFrame : ℤ} {showsProgress : Bool},
      1 ≤ perFrame → ¬Runnable .standard showsProgress frames perFrame →
        s.operate .standard (.runHeadless frames perFrame showsProgress) ≠ .ok last := by
    intro s last frames perFrame showsProgress hper hrunnable hlast
    have hrun := operate_runHeadless Host.countsWords_standard s frames hper showsProgress
    rw [if_neg hrunnable, hlast] at hrun
    obtain ⟨error, herror⟩ := hrun
    cases herror
  exact ⟨_, rfl,
    fun showsProgress last =>
      hrefused _ last (by decide) (not_runnable_of_le (by decide) showsProgress 1),
    rfl, fun last => hrefused _ last (by decide) (by decide)⟩

end Chip8.Machine
