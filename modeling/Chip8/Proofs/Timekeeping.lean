import Chip8.Proofs.Retrying
import Chip8.Proofs.Stopped
import Mathlib.Algebra.BigOperators.Ring.List
import Mathlib.Data.Set.List

set_option autoImplicit false

/-!
# Timekeeping

The clock of a session counts in sixtieths of a millisecond, and a period of the timers is a
thousand of these. Every time that passes is added to the clock, and all whole periods on it are
spent on the timers, so that no time is lost between calls: what was spent and what is left on the
clock add up to what has passed. It makes no difference that no more than 255 periods of a call are
run, since no timer lasts longer.

A frame that is not measured takes the length that the rate of the session gives it, in whole
sixtieths of a millisecond. What this leaves out is lost in every frame, so that the frames of a
second make up a second only if the rate divides it.

## Main definitions

* `Chip8.Session.spans` — the times that pass in a list of requests.
* `Chip8.Session.periodsOver` — the periods of the timers that are spent in a list of requests.
* `Chip8.Session.Punctual` — what milliseconds do to a session that keeps the time.
* `Chip8.Session.Accounted` — where the time that has passed went.

## Main results

* `Chip8.Session.serve_balance` — a request spends the time that passes, or leaves it on the clock.
* `Chip8.Session.punctual_served` — sessions keep the time through all requests.
* `Chip8.Session.periods_of_seconds` — the periods in whole seconds of frames that are not measured.
-/

namespace Chip8

namespace Machine

/-! ## Periods in a row -/

lemma repeat_decrementTimers (s : Machine) (n : ℕ) : n.repeat decrementTimers s = s.decayed n := by
  induction n with
  | zero => exact s.decayed_zero.symm
  | succ n ih => rw [Nat.repeat, ih, decrementTimers_eq, decayed_decayed]

/-- No timer lasts longer than 255 periods. -/
lemma decayed_min (s : Machine) (n : ℕ) : s.decayed (min n 255) = s.decayed n := by
  have hcap : ∀ t : UInt8, t.toNat - min n 255 = t.toNat - n := fun t => by
    have := t.toNat_lt
    omega
  simp only [decayed, hcap]

end Machine

namespace Session

/-! ## Calls -/

/-- All whole periods on the clock are spent, and what is left of a period remains. -/
lemma spend_eq_decayed (s : Session) (time : ℤ) :
    s.spend time = ({ s with
      machine := s.machine.decayed ((s.clock + time) / 1000).toNat
      clock := (s.clock + time) % 1000 }, (s.clock + time) / 1000) := by
  have hcap : (min ((s.clock + time) / 1000) 255).toNat =
      min ((s.clock + time) / 1000).toNat 255 := by omega
  rw [spend_eq, hcap, Machine.repeat_decrementTimers, Machine.decayed_min]

/-- The time in a call that lets time pass, in sixtieths of a millisecond. -/
def timeOf (s : Session) : Option ℤ → ℤ
  | some ms => 60 * ms
  | none => Int.fdiv 60000 s.framesPerSecond

/-- A call spends its time, unless it has no measure. -/
lemma advanceTimers_eq_spend (s : Session) (elapsed? : Option ℤ) :
    s.advanceTimers elapsed? =
      if elapsed? = none ∧ s.framesPerSecond = 0 then (s, .error .divisionByZero)
      else ((s.spend (s.timeOf elapsed?)).1, .ok (s.spend (s.timeOf elapsed?)).2) := by
  cases elapsed? with
  | some ms => rfl
  | none =>
    by_cases hzero : s.framesPerSecond = 0
    · rw [if_pos ⟨rfl, hzero⟩, advanceTimers, if_pos hzero]
    · rw [if_neg fun h => hzero h.2, advanceTimers, if_neg hzero]
      rfl

/-- The number of periods that a call spends, none if its time has no measure. -/
def periodsIn (s : Session) (elapsed? : Option ℤ) : ℤ :=
  (s.advanceTimers elapsed?).2.toOption.getD 0

/-- A call spends its time, or leaves it on the clock. -/
lemma advanceTimers_balance (s : Session) (elapsed? : Option ℤ) :
    1000 * s.periodsIn elapsed? + (s.advanceTimers elapsed?).1.clock =
      s.clock + s.timeOf elapsed? := by
  rw [periodsIn, advanceTimers_eq_spend]
  split
  case isTrue h =>
    have htime : s.timeOf elapsed? = 0 := by
      rw [h.1, timeOf, h.2]
      rfl
    rw [htime, add_zero]
    exact zero_add s.clock
  case isFalse =>
    rw [spend_eq_decayed]
    exact Int.mul_ediv_add_emod _ _

/-- Less than a period is left on the clock after a call, if it was so before. -/
lemma clock_advanceTimers (s : Session) (elapsed? : Option ℤ) (h : 0 ≤ s.clock ∧ s.clock < 1000) :
    0 ≤ (s.advanceTimers elapsed?).1.clock ∧ (s.advanceTimers elapsed?).1.clock < 1000 := by
  rw [advanceTimers_eq_spend]
  split
  · exact h
  · rw [spend_eq_decayed]
    exact ⟨Int.emod_nonneg _ (by decide), Int.emod_lt_of_pos _ (by decide)⟩

/-! ## Requests -/

/-- The times that pass in a request: milliseconds, or the length of a frame where none are given.
No time passes with an event, or in a frame that raises an error. -/
def spansOf (s : Session) : Request → List (Option ℤ)
  | .handle _ => []
  | .runFrame elapsed? => if (s.runFrame elapsed?).2.isNone then [elapsed?] else []
  | .advanceTimers elapsed? => [elapsed?]

/-- The number of periods of the timers that are spent in a request. -/
def periods (s : Session) : Request → ℤ
  | .handle _ => 0
  | .runFrame elapsed? =>
    match s.execute s.perFrame.toNat with
    | (_, some _) => 0
    | (executed, none) => executed.periodsIn elapsed?
  | .advanceTimers elapsed? => s.periodsIn elapsed?

/-- The times that pass in a list of requests, in order. -/
def spans (s : Session) : List Request → List (Option ℤ)
  | [] => []
  | request :: requests => s.spansOf request ++ (s.serve request).spans requests

/-- The number of periods of the timers that are spent in a list of requests. -/
def periodsOver (s : Session) : List Request → ℤ
  | [] => 0
  | request :: requests => s.periods request + (s.serve request).periodsOver requests

lemma samePace_of_execute {s executed : Session} {n : ℕ} {fault? : Option Fault}
    (h : s.execute n = (executed, fault?)) : SamePace s executed := by
  obtain ⟨k, hk⟩ := s.execute_spec n
  rw [h] at hk
  exact hk.pace

/-- A frame that no fault ends lets time pass after its instructions. -/
lemma runFrame_of_execute {s executed : Session}
    (h : s.execute s.perFrame.toNat = (executed, none)) (elapsed? : Option ℤ) :
    s.runFrame elapsed? = ((executed.advanceTimers elapsed?).1,
      if elapsed? = none ∧ executed.framesPerSecond = 0 then some .divisionByZero else none) := by
  rw [runFrame, h]
  simp only [advanceTimers_eq_spend]
  by_cases hzero : elapsed? = none ∧ executed.framesPerSecond = 0
  · simp only [if_pos hzero]
  · simp only [if_neg hzero]

/-- A request lets no time pass, or lets time pass once. -/
lemma serve_cases (s : Session) (request : Request) :
    (s.spansOf request = [] ∧ s.periods request = 0 ∧ (s.serve request).clock = s.clock ∧
      (s.serve request).framesPerSecond = s.framesPerSecond) ∨
    ∃ (executed : Session) (elapsed? : Option ℤ), executed.clock = s.clock ∧
      executed.framesPerSecond = s.framesPerSecond ∧ s.spansOf request = [elapsed?] ∧
      s.periods request = executed.periodsIn elapsed? ∧
      s.serve request = (executed.advanceTimers elapsed?).1 := by
  cases request with
  | handle event =>
    refine .inl ⟨rfl, rfl, ?_⟩
    by_cases hreset : event = .down "F5"
    · -- the machine begins anew, but the clock goes on
      subst hreset
      exact ⟨rfl, rfl⟩
    · obtain ⟨machine, hhandle, -⟩ := s.handle_of_ne_reset hreset
      rw [serve, hhandle]
      exact ⟨rfl, rfl⟩
  | advanceTimers elapsed? => exact .inr ⟨s, elapsed?, rfl, rfl, rfl, rfl, rfl⟩
  | runFrame elapsed? =>
    rw [periods, spansOf, serve]
    cases hexecute : s.execute s.perFrame.toNat with
    | mk executed fault? =>
      have hpace := samePace_of_execute hexecute
      cases fault? with
      | some fault =>
        have hrun : s.runFrame elapsed? = (executed, some (.fault fault)) := by
          rw [runFrame, hexecute]
        rw [hrun]
        exact .inl ⟨rfl, rfl, hpace.clock, hpace.framesPerSecond⟩
      | none =>
        rw [runFrame_of_execute hexecute]
        by_cases hzero : elapsed? = none ∧ executed.framesPerSecond = 0
        · -- a frame without a measure raises an error when its instructions are done
          have htimers : executed.advanceTimers elapsed? = (executed, .error .divisionByZero) := by
            rw [advanceTimers_eq_spend, if_pos hzero]
          rw [if_pos hzero, htimers]
          refine .inl ⟨rfl, ?_, hpace.clock, hpace.framesPerSecond⟩
          show executed.periodsIn elapsed? = 0
          rw [periodsIn, htimers]
          rfl
        · rw [if_neg hzero]
          exact .inr ⟨executed, elapsed?, hpace.clock, hpace.framesPerSecond, rfl, rfl, rfl⟩

lemma framesPerSecond_serve (s : Session) (request : Request) :
    (s.serve request).framesPerSecond = s.framesPerSecond := by
  obtain ⟨-, -, -, hrate⟩ | ⟨executed, elapsed?, -, hrate, -, -, hserve⟩ := s.serve_cases request
  · exact hrate
  · obtain ⟨periods, clock, ticks, htimers⟩ := executed.advanceTimers_eq elapsed?
    rw [hserve, htimers, ← hrate]

lemma clock_serve {s : Session} (h : 0 ≤ s.clock ∧ s.clock < 1000) (request : Request) :
    0 ≤ (s.serve request).clock ∧ (s.serve request).clock < 1000 := by
  obtain ⟨-, -, hclock, -⟩ | ⟨executed, elapsed?, hclock, -, -, -, hserve⟩ := s.serve_cases request
  · rwa [hclock]
  · rw [hserve]
    exact executed.clock_advanceTimers elapsed? (by rwa [hclock])

lemma timeOf_congr {s s' : Session} (h : s'.framesPerSecond = s.framesPerSecond) :
    s'.timeOf = s.timeOf := by
  funext elapsed?
  cases elapsed? with
  | some ms => rfl
  | none => rw [timeOf, timeOf, h]

/-- **A request spends the time that passes, or leaves it on the clock.** -/
theorem serve_balance (s : Session) (request : Request) :
    1000 * s.periods request + (s.serve request).clock =
      s.clock + ((s.spansOf request).map s.timeOf).sum := by
  obtain ⟨hspans, hperiods, hclock, -⟩ |
    ⟨executed, elapsed?, hclock, hrate, hspans, hperiods, hserve⟩ := s.serve_cases request
  · rw [hspans, hperiods, hclock]
    simp only [mul_zero, zero_add, List.map_nil, List.sum_nil, add_zero]
  · rw [hspans, hperiods, hserve, executed.advanceTimers_balance, hclock, timeOf_congr hrate,
      List.map_singleton, List.sum_singleton]

/-- Time is neither gained nor lost in a list of requests. -/
lemma served_balance (s : Session) (requests : List Request) :
    1000 * s.periodsOver requests + (s.served requests).clock =
      s.clock + ((s.spans requests).map s.timeOf).sum := by
  induction requests generalizing s with
  | nil =>
    show 1000 * 0 + s.clock = s.clock + 0
    omega
  | cons request requests ih =>
    have hstep := s.serve_balance request
    have hrest := ih (s.serve request)
    rw [timeOf_congr (s.framesPerSecond_serve request)] at hrest
    rw [periodsOver, spans, List.map_append, List.sum_append]
    change 1000 * (_ + _) + ((s.serve request).served requests).clock = _
    omega

lemma clock_served {s : Session} (h : 0 ≤ s.clock ∧ s.clock < 1000) (requests : List Request) :
    0 ≤ (s.served requests).clock ∧ (s.served requests).clock < 1000 := by
  induction requests generalizing s with
  | nil => exact h
  | cons request requests ih => exact ih (clock_serve h request)

/-- The times that pass in a list of requests are those that the requests give. -/
lemma mem_of_mem_spans {s : Session} {requests : List Request} {elapsed? : Option ℤ}
    (h : elapsed? ∈ s.spans requests) :
    .runFrame elapsed? ∈ requests ∨ .advanceTimers elapsed? ∈ requests := by
  induction requests generalizing s with
  | nil => cases h
  | cons request requests ih =>
    rw [spans, List.mem_append] at h
    rcases h with hfirst | hrest
    · cases request with
      | handle event => cases hfirst
      | runFrame given? =>
        rw [spansOf] at hfirst
        split at hfirst
        · rw [List.mem_singleton.mp hfirst]
          exact .inl (.head _)
        · cases hfirst
      | advanceTimers given? =>
        rw [List.mem_singleton.mp hfirst]
        exact .inr (.head _)
    · exact (ih hrest).imp (.tail _) (.tail _)

/-! ## Measured time -/

/-- Milliseconds that pass run both timers down by the number of periods that is yielded, however
many these are, and move nothing else but the clock. -/
def RunsDown (s : Session) : Prop :=
  ∀ ms, 0 ≤ ms → ∃ (ticks : ℕ) (clock : ℤ), 0 ≤ clock ∧ clock < 1000 ∧
    1000 * ticks + clock = s.clock + 60 * ms ∧
    s.advanceTimers (some ms) =
      ({ s with machine := s.machine.decayed ticks, clock }, .ok (ticks : ℤ))

/-- What milliseconds do to a session that keeps the time. -/
structure Punctual (s : Session) : Prop where
  /-- Less than a period is left on the clock. -/
  clock : 0 ≤ s.clock ∧ s.clock < 1000
  /-- Both timers run down by the periods that pass. -/
  runsDown : s.RunsDown
  /-- So they do at the end of a frame that no fault ends, from where its instructions left them. -/
  frames : ∀ executed, s.execute s.perFrame.toNat = (executed, none) →
    executed.clock = s.clock ∧ executed.RunsDown ∧
    ∀ ms, s.runFrame (some ms) = ((executed.advanceTimers (some ms)).1, none)
  /-- Milliseconds in two parts do what they do in one. -/
  joined : ∀ a b, 0 ≤ a → 0 ≤ b → ∃ (ticks ticks' : ℕ) (first second : Session),
    s.advanceTimers (some a) = (first, .ok (ticks : ℤ)) ∧
    first.advanceTimers (some b) = (second, .ok (ticks' : ℤ)) ∧
    s.advanceTimers (some (a + b)) = (second, .ok ((ticks + ticks' : ℕ) : ℤ))

lemma runsDown_of_clock {s : Session} (h : 0 ≤ s.clock) : s.RunsDown := by
  intro ms hms
  obtain ⟨ticks, hticks⟩ := Int.eq_ofNat_of_zero_le (show 0 ≤ (s.clock + 60 * ms) / 1000 by omega)
  refine ⟨ticks, (s.clock + 60 * ms) % 1000, by omega, by omega, by omega, ?_⟩
  show ((s.spend (60 * ms)).1, Except.ok (s.spend (60 * ms)).2) = _
  rw [spend_eq_decayed, hticks, Int.toNat_natCast]

/-- A session with less than a period on its clock keeps the time. -/
lemma punctual_of_clock {s : Session} (h : 0 ≤ s.clock ∧ s.clock < 1000) : s.Punctual where
  clock := h
  runsDown := runsDown_of_clock h.1
  frames executed hexecute := by
    have hclock : executed.clock = s.clock := (samePace_of_execute hexecute).clock
    refine ⟨hclock, runsDown_of_clock (by omega), fun ms => ?_⟩
    rw [runFrame_of_execute hexecute, if_neg fun hzero => by cases hzero.1]
  joined a b ha hb := by
    obtain ⟨ticks, clock, hpos, -, hbalance, hfirst⟩ := runsDown_of_clock h.1 a ha
    obtain ⟨ticks', clock', hpos', hlt', hbalance', hsecond⟩ :=
      runsDown_of_clock (s := { s with machine := s.machine.decayed ticks, clock }) hpos b hb
    obtain ⟨sum, left, hleft, hlt, hwhole, hall⟩ := runsDown_of_clock h.1 (a + b) (by omega)
    -- the whole periods in the sum, and what is left of it, are told apart in one way only
    dsimp only at hbalance'
    obtain rfl : sum = ticks + ticks' := by omega
    obtain rfl : left = clock' := by omega
    refine ⟨ticks, ticks', _, _, hfirst, hsecond, ?_⟩
    rw [hall, Machine.decayed_decayed]

/-- The time that has passed since a session had none on its clock, in a list of requests. -/
structure Accounted (start : Session) (requests : List Request) : Prop where
  /-- All of it was spent on the timers or is left on the clock. -/
  balance : 1000 * start.periodsOver requests + (start.served requests).clock =
    ((start.spans requests).map start.timeOf).sum
  /-- Where all requests give milliseconds, it is made up of these. -/
  measured : .runFrame none ∉ requests → .advanceTimers none ∉ requests →
    ∃ times : List ℤ, start.spans requests = times.map some ∧
      1000 * start.periodsOver requests + (start.served requests).clock = 60 * times.sum

/-- **Sessions keep the time through all requests**, and account for every part of it.

**Proof sketch.** Every request spends the time that passes in it or leaves it on the clock, and by
induction so does a list of requests. What a session does with time depends on its clock alone. -/
theorem punctual_served (start : Session) (h : start.clock = 0) (requests : List Request) :
    (start.served requests).Punctual ∧ start.Accounted requests := by
  have hbalance := start.served_balance requests
  rw [h, zero_add] at hbalance
  refine ⟨punctual_of_clock (clock_served (by omega) requests), hbalance, ?_⟩
  intro hframes hcalls
  obtain ⟨times, htimes⟩ : start.spans requests ∈ Set.range (List.map some) := by
    rw [Set.range_list_map]
    intro elapsed? hmem
    cases elapsed? with
    | some ms => exact ⟨ms, rfl⟩
    | none => exact absurd (mem_of_mem_spans hmem) (not_or.mpr ⟨hframes, hcalls⟩)
  refine ⟨times, htimes.symm, ?_⟩
  calc 1000 * start.periodsOver requests + (start.served requests).clock
      = ((times.map some).map start.timeOf).sum := by rw [hbalance, htimes]
    _ = (times.map fun ms => 60 * id ms).sum := by rw [List.map_map]; rfl
    _ = 60 * times.sum := by rw [List.sum_map_mul_left, List.map_id]

/-- A program that sets the delay timer and then returns without a call, which the second frame
meets. That frame takes no time, and neither does the new beginning; time that goes back is made up
for. -/
theorem punctual_served_past_a_fault :
    ∃ s, start { rom := [0x61, 0x3C, 0xF1, 0x15, 0x00, 0xEE], perFrame := 2 }
        (.blank {} fun _ => 0) = .ok s ∧ s.clock = 0 ∧
      let requests := [.runFrame (some 17), .runFrame (some 50), .handle (.down "F5"),
        .advanceTimers (some (-3)), .runFrame (some 1000), .advanceTimers (some 16)]
      (s.served requests).Punctual ∧ s.Accounted requests ∧
        s.spans requests = [some 17, some (-3), some 1000, some 16] ∧
        s.periodsOver requests = 61 ∧ (s.served requests).clock = 800 := by
  refine ⟨_, rfl, rfl, ?_⟩
  intro requests
  refine ⟨(punctual_served _ rfl requests).1, (punctual_served _ rfl requests).2, ?_⟩
  decide +kernel

/-! ## Time that is not measured -/

/-- The frames of a second take less than a second by what the division of it leaves. -/
lemma sum_timeOf_second {s : Session} (h : 0 < s.framesPerSecond) (k : ℕ) :
    ((List.replicate (k * s.framesPerSecond.toNat) none).map s.timeOf).sum =
      k * (60000 - 60000 % s.framesPerSecond) := by
  have hframe : s.timeOf none = 60000 / s.framesPerSecond :=
    Int.fdiv_eq_ediv_of_nonneg _ h.le
  have hsecond := Int.mul_ediv_add_emod 60000 s.framesPerSecond
  calc ((List.replicate (k * s.framesPerSecond.toNat) none).map s.timeOf).sum
      = (k * s.framesPerSecond.toNat : ℕ) * (60000 / s.framesPerSecond) := by
        rw [List.map_replicate, List.sum_replicate, nsmul_eq_mul, hframe]
    _ = k * (s.framesPerSecond * (60000 / s.framesPerSecond)) := by
        rw [Nat.cast_mul, Int.toNat_of_nonneg h.le, mul_assoc]
    _ = k * (60000 - 60000 % s.framesPerSecond) := by rw [eq_sub_of_add_eq hsecond]

/-- **The periods in whole seconds of frames that are not measured.** Sixty of them make up a second
only if the rate divides it; every second loses what the division leaves.

**Proof sketch.** All time in the frames is spent or left on the clock, so that the whole periods in
it are spent. -/
theorem periods_of_seconds (start : Session) (h : start.clock = 0)
    (hrate : 0 < start.framesPerSecond) (k : ℕ) (requests : List Request)
    (hspans : start.spans requests = List.replicate (k * start.framesPerSecond.toNat) none) :
    start.periodsOver requests = k * (60000 - 60000 % start.framesPerSecond) / 1000 ∧
      (start.served requests).clock = k * (60000 - 60000 % start.framesPerSecond) % 1000 ∧
      ((start.periodsOver requests = 60 * k ∧ (start.served requests).clock = 0) ↔
        k = 0 ∨ start.framesPerSecond ∣ 60000) := by
  have hbalance := start.served_balance requests
  obtain ⟨hpos, hlt⟩ := clock_served (show 0 ≤ start.clock ∧ start.clock < 1000 by omega) requests
  rw [h, zero_add, hspans, sum_timeOf_second hrate] at hbalance
  refine ⟨by omega, by omega, ?_⟩
  have hlost : (start.periodsOver requests = 60 * k ∧ (start.served requests).clock = 0) ↔
      (k : ℤ) * (60000 % start.framesPerSecond) = 0 := by
    rw [mul_sub] at hbalance
    omega
  rw [hlost, mul_eq_zero, Nat.cast_eq_zero, Int.dvd_iff_emod_eq_zero]

/-- A second of eight frames, four of them without their instructions, and a new beginning between
them. -/
theorem periods_of_seconds_at_eight :
    ∃ s, start { rom := [0x12, 0x00], perFrame := 1, framesPerSecond := 8 }
        (.blank {} fun _ => 0) = .ok s ∧
      s.clock = 0 ∧ 0 < s.framesPerSecond ∧
      let requests := List.replicate 4 (.runFrame none) ++
        .handle (.down "F5") :: List.replicate 4 (.advanceTimers none)
      s.spans requests = List.replicate (1 * s.framesPerSecond.toNat) none ∧
        s.periodsOver requests = 60 ∧ (s.served requests).clock = 0 := by
  refine ⟨_, rfl, rfl, by decide, ?_⟩
  intro requests
  refine ⟨?spans,
    (periods_of_seconds _ rfl (by decide) 1 requests ?spans).2.2.mpr (.inr ⟨7500, rfl⟩)⟩
  decide +kernel

/-- A second of seven frames is short of a period, with their instructions and without them. -/
theorem exists_slow_second :
    ∃ s, start { rom := [0x12, 0x00], perFrame := 1, framesPerSecond := 7 }
        (.blank {} fun _ => 0) = .ok s ∧
      s.clock = 0 ∧ 1 ≤ s.framesPerSecond ∧
      ∀ request ∈ [Request.runFrame none, Request.advanceTimers none],
        let requests := List.replicate (1 * s.framesPerSecond.toNat) request
        s.spans requests = List.replicate (1 * s.framesPerSecond.toNat) none ∧
          ¬(s.periodsOver requests = 60 * 1 ∧ (s.served requests).clock = 0) ∧
          s.periodsOver requests = 59 ∧ (s.served requests).clock = 997 := by
  refine ⟨_, rfl, ?_⟩
  decide +kernel

end Session

end Chip8
