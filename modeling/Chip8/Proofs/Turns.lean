import Chip8.Proofs.Retrying
import Chip8.Session.Playback

set_option autoImplicit false

/-!
# Turns of a session

A turn handles all of its events in order, also those after one that ends the session, and then runs
a frame that takes the time of the turn. The clock of the journal is another one. A turn is the last
one if one of its events ends the session or if a fault ends its frame.

Ticks are counted over turns: beginning anew puts the machine back, but not the count.

## Main definitions

* `Chip8.Event.Ends` — the events that end a session.
* `Chip8.Turn.Reads` — the clock of the journal can be read from a turn on.
* `Chip8.Session.attend`, `Chip8.Session.frameOf`, `Chip8.Session.passed` — a session after the
  events of a turn, after its frame, and after a list of turns.
* `Chip8.Session.EndsWith` — whether a turn is the last one.
* `Chip8.Session.ticksOver` — the number of ticks in a list of turns.
* `Chip8.Session.Along` — what turns leave alone in a session, and what they add up to.

## Main results

* `Chip8.Session.along_passed` — what a list of turns makes of a session.
* `Chip8.Session.exists_turn_eq` — a turn of a playback, by its events and its frame.
-/

namespace Chip8

/-! ## Events -/

/-- The events that end a session: the wish to end it, and `ESCAPE` going down. -/
def Event.Ends (event : Event) : Prop :=
  event = .quit ∨ event = .down "ESCAPE"

instance : DecidablePred Event.Ends :=
  fun _ => inferInstanceAs (Decidable (_ ∨ _))

/-- If a turn brings readings of the clock of the journal, they can be read. -/
def Turn.Reads (t : Turn) : Prop :=
  ∀ clock ∈ t.clock?, ∀ n, Clock.isReadable (clock n) = true

namespace Session

/-- A session goes on after an event unless the event ends it. -/
lemma handle_snd (s : Session) (event : Event) : (s.handle event).2 = !decide event.Ends := by
  unfold handle Event.Ends
  split
  case h_1 => simp
  case h_2 => simp
  case h_3 => simp
  case h_4 key hescape hreset =>
    have hother : key ≠ "ESCAPE" := hescape
    split <;> simp [hother]
  case h_5 => split <;> simp
  case h_6 => simp

/-- Events are handled one after the other, and the session goes on if none of them ends it. -/
lemma handleAll_eq (s : Session) (events : List Event) :
    s.handleAll events = (events.foldl (fun s event => (s.handle event).1) s,
      !decide (∃ event ∈ events, event.Ends)) := by
  have hfold : ∀ (events : List Event) (s : Session) (goesOn : Bool),
      events.foldl (fun state event =>
          ((state.1.handle event).1, (state.1.handle event).2 && state.2)) (s, goesOn) =
        (events.foldl (fun s event => (s.handle event).1) s,
          !decide (∃ event ∈ events, event.Ends) && goesOn) := by
    intro events
    induction events with
    | nil => simp
    | cons event events ih =>
      intro s goesOn
      rw [List.foldl_cons, ih, List.foldl_cons, handle_snd]
      simp [Bool.and_assoc, Bool.and_left_comm]
  rw [handleAll, hfold, Bool.and_true]

/-! ## Turns -/

/-- A session that has handled the events of a turn, all of them and in order. -/
def attend (s : Session) (t : Turn) : Session :=
  t.events.foldl (fun s event => (s.handle event).1) (s.meet t)

/-- A session after the frame of a turn, which takes the time of the turn, and what the frame
raised. -/
def frameOf (s : Session) (t : Turn) : Session × Option Error :=
  (s.attend t).runFrame (some t.elapsed)

/-- A session after a list of turns. -/
def passed (s : Session) (turns : List Turn) : Session :=
  turns.foldl (fun s t => (s.frameOf t).1) s

/-- A turn is the last one: one of its events ends the session, or a fault ends its frame. -/
def EndsWith (s : Session) (t : Turn) : Prop :=
  (∃ event ∈ t.events, event.Ends) ∨ (s.attend t).machine.StopsFrame s.perFrame.toNat

instance (s : Session) : DecidablePred s.EndsWith :=
  fun _ => inferInstanceAs (Decidable (_ ∨ _))

/-- The number of ticks in a list of turns: of each, those of its frame. -/
def ticksOver (s : Session) : List Turn → ℕ
  | [] => 0
  | t :: turns =>
    (s.attend t).machine.frameTicks s.perFrame.toNat + (s.frameOf t).1.ticksOver turns

lemma passed_cons (s : Session) (t : Turn) (turns : List Turn) :
    s.passed (t :: turns) = (s.frameOf t).1.passed turns :=
  rfl

lemma passed_concat (s : Session) (turns : List Turn) (t : Turn) :
    s.passed (turns ++ [t]) = ((s.passed turns).frameOf t).1 := by
  rw [passed, List.foldl_append]
  rfl

/-- An event leaves the count of ticks alone, also the one that begins anew. -/
lemma cycles_handle (s : Session) (event : Event) : (s.handle event).1.cycles = s.cycles := by
  by_cases hreset : event = .down "F5"
  · rw [hreset]
    rfl
  · obtain ⟨machine, hhandle, -⟩ := s.handle_of_ne_reset hreset
    rw [hhandle]

/-- The events of a turn are requests. -/
lemma attend_eq_served (s : Session) (t : Turn) :
    s.attend t = (s.meet t).served (t.events.map .handle) := by
  rw [attend, served, List.foldl_map]
  rfl

/-- The events of a turn leave the count of ticks alone. -/
lemma cycles_attend (s : Session) (t : Turn) : (s.attend t).cycles = s.cycles := by
  have hfold : ∀ (events : List Event) (s : Session),
      (events.foldl (fun s event => (s.handle event).1) s).cycles = s.cycles := by
    intro events
    induction events with
    | nil => exact fun _ => rfl
    | cons event events ih => exact fun s => (ih _).trans (s.cycles_handle event)
  exact hfold t.events _

/-- The clock and the events of a turn leave a session sound. -/
lemma Sound.attend {s : Session} (hs : s.Sound) (t : Turn) :
    (s.attend t).Sound ∧ Upkeep (s.meet t) (s.attend t) := by
  have hmeet : (s.meet t).Sound :=
    ⟨hs.freshHealthy, hs.freshIdle, hs.healthy, hs.poised⟩
  rw [attend_eq_served]
  exact sound_served hmeet _

/-- The clock can be read in a turn if it can be read before and in the turn. -/
lemma reads_meet {s : Session} (hreads : s.journal.Reads) {t : Turn} (ht : t.Reads) :
    (s.meet t).journal.Reads := by
  show ∀ n, Clock.isReadable ((t.clock?.getD s.journal.clock) n) = true
  cases hclock : t.clock? with
  | none => exact hreads
  | some clock => exact ht clock hclock

/-- **The frame of a turn**: its ticks, and then no cycle. If a fault ends it, it is that of the
trap which is about to stop the machine. -/
lemma frameOf_spec {s : Session} (hs : s.Sound) (t : Turn) :
    ∃ executed, Ticked (s.attend t) ((s.attend t).machine.frameTicks s.perFrame.toNat) executed ∧
      (s.frameOf t).1.cycles = executed.cycles ∧
      executed.machine.SameProgress (s.frameOf t).1.machine ∧
      if (s.attend t).machine.StopsFrame s.perFrame.toNat then
        ∃ trap, (s.frameOf t).1.machine.Springs trap ∧
          (s.frameOf t).2 = some (.fault ((s.frameOf t).1.machine.faultOn trap))
      else (s.frameOf t).2 = none := by
  obtain ⟨hsound, hupkeep⟩ := hs.attend t
  have hper : (s.attend t).perFrame = s.perFrame := hupkeep.perFrame_eq
  obtain ⟨executed, hticked, hrun⟩ := runFrame_spec hsound (some t.elapsed)
  rw [hper] at hticked hrun
  refine ⟨executed, hticked, ?_⟩
  split at hrun
  case isTrue hstops =>
    obtain ⟨trap, htrap, -, hrun⟩ := hrun
    rw [if_pos hstops, frameOf, hrun]
    exact ⟨rfl, rfl, trap, htrap, rfl⟩
  case isFalse hgoes =>
    -- time that is given has a measure, so the frame raises nothing
    obtain ⟨periods, clock, ticks, htimers⟩ := executed.advanceTimers_eq (some t.elapsed)
    rw [if_neg hgoes, frameOf, hrun, htimers]
    exact ⟨rfl, .repeat_decrementTimers _ _, by simp⟩

/-! ## What turns add up to -/

/-- What turns leave alone in a session, and what they add up to. -/
structure Along (s : Session) (turns : List Turn) (s' : Session) : Prop where
  /-- The machine runs, and stands on the instruction that waits if it waits. -/
  sound : s'.Sound
  /-- What the session was set up with is the same. -/
  setting : s' = { s with
    machine := s'.machine
    cycles := s'.cycles
    clock := s'.clock
    journal := s'.journal
    hindrance := s'.hindrance }
  /-- The journal has only further records, and other readings of its clock are to come. -/
  journal : s'.journal = { s.journal with
    clock := s'.journal.clock
    records := s'.journal.records }
  /-- The ticks are counted. -/
  cycles : s'.cycles = s.cycles + s.ticksOver turns
  /-- A clock that can be read in all turns can be read after them. -/
  reads : s.journal.Reads → (∀ t ∈ turns, t.Reads) → s'.journal.Reads

namespace Along

variable {s s' : Session} {t : Turn} {turns : List Turn}

/-- A turn and further ones are several turns. -/
lemma cons (h : Along s [t] (s.frameOf t).1) (h' : Along (s.frameOf t).1 turns s') :
    Along s (t :: turns) s' where
  sound := h'.sound
  setting := by rw [h'.setting, h.setting]
  journal := by rw [h'.journal, h.journal]
  cycles := by
    rw [h'.cycles, h.cycles]
    simp only [ticksOver]
    omega
  reads hreads hturns :=
    h'.reads (h.reads hreads (List.forall_mem_singleton.mpr (hturns t (.head _))))
      fun t' ht' => hturns t' (.tail _ ht')

end Along

/-- Events and the frame of a turn leave alone what is in a session. -/
lemma Sound.frameOf {s : Session} (hs : s.Sound) (t : Turn) :
    (s.frameOf t).1.Sound ∧ Upkeep (s.meet t) (s.frameOf t).1 := by
  obtain ⟨hsound, hupkeep⟩ := hs.attend t
  obtain ⟨hsound', hupkeep'⟩ := hsound.runFrame (some t.elapsed)
  exact ⟨hsound', hupkeep.trans hupkeep'⟩

/-- What one turn makes of a session. As long as the clock can be read, no report of it is kept from
being told. -/
lemma along_frameOf {s : Session} (hs : s.Sound) (t : Turn) :
    Along s [t] (s.frameOf t).1 ∧
      (s.journal.Reads → t.Reads → (s.frameOf t).1.hindrance = s.hindrance) := by
  obtain ⟨hsound, hupkeep⟩ := hs.frameOf t
  refine ⟨⟨hsound, hupkeep.setting, hupkeep.journal, ?_, fun hreads hturns => ?_⟩,
    fun hreads ht => hupkeep.told (reads_meet hreads ht)⟩
  · obtain ⟨executed, hticked, hcount, -⟩ := frameOf_spec hs t
    rw [hcount, hticked.moved, cycles_attend]
    rfl
  · exact hupkeep.reads (reads_meet hreads (hturns t (.head _)))

/-- **What a list of turns makes of a session.**

**Proof sketch.** By induction on the turns, from what one turn makes of it. -/
theorem along_passed {s : Session} (hs : s.Sound) (turns : List Turn) :
    Along s turns (s.passed turns) := by
  induction turns generalizing s with
  | nil => exact ⟨hs, rfl, rfl, rfl, fun hreads _ => hreads⟩
  | cons t turns ih =>
    obtain ⟨hfirst, -⟩ := along_frameOf hs t
    exact hfirst.cons (ih hfirst.sound)

/-- The ticks of a turn succeed, and what follows them in the turn is no cycle. -/
lemma exists_ticks_of_turn {s : Session} (hs : s.Sound) (t : Turn) :
    ∃ ticked, (s.attend t).machine.ticks ((s.attend t).machine.frameTicks s.perFrame.toNat) =
      .ok ticked ∧ ticked.SameProgress (s.frameOf t).1.machine := by
  obtain ⟨executed, hticked, -, hprogress, -⟩ := frameOf_spec hs t
  refine ⟨executed.machine, ?_, hprogress⟩
  rw [Machine.ticks_frameTicks (hs.attend t).1.healthy, hticked.moved]

/-! ## Faults of turns -/

/-- A session that a fault is reported to, if there is one. -/
def reporting (s : Session) : Option Fault → Session
  | none => s
  | some fault => s.report (.failure (.fault fault))

/-- The fault that a frame met, if it met one: that of the trap which is about to stop the machine
that is kept. -/
structure Met (s : Session) (t : Turn) (fault? : Option Fault) : Prop where
  /-- It is what the frame raised. -/
  raised : (s.frameOf t).2 = fault?.map Error.fault
  /-- There is one if a fault ends the frame. -/
  isSome_iff : fault?.isSome = true ↔ (s.attend t).machine.StopsFrame s.perFrame.toNat
  /-- It is that of a trap of the next word. -/
  springs : ∀ fault ∈ fault?, ∃ trap, (s.frameOf t).1.machine.Springs trap ∧
    fault = (s.frameOf t).1.machine.faultOn trap

/-- **A turn of a playback**: the session after its frame, with the fault reported that the frame
met. It goes on unless the turn is the last one. -/
theorem exists_turn_eq {s : Session} (hs : s.Sound) (t : Turn) :
    ∃ fault?, Met s t fault? ∧ s.turn t =
      { session := (s.frameOf t).1.reporting fault?, goesOn := !decide (s.EndsWith t)
        fault := fault? } := by
  have hbegin : s.beginTurn t = (s.attend t, !decide (∃ event ∈ t.events, event.Ends)) :=
    handleAll_eq _ _
  have hrun : (s.attend t).runFrame (some t.elapsed) = ((s.frameOf t).1, (s.frameOf t).2) := rfl
  obtain ⟨executed, -, -, -, hraised⟩ := frameOf_spec hs t
  split at hraised
  case isTrue hstops =>
    obtain ⟨trap, htrap, hraised⟩ := hraised
    have hlast : s.EndsWith t := .inr hstops
    refine ⟨some ((s.frameOf t).1.machine.faultOn trap), ⟨hraised, by simp [hstops], ?_⟩, ?_⟩
    · rintro fault ⟨⟩
      exact ⟨trap, htrap, rfl⟩
    · rw [turn, hbegin]
      simp only [hrun, hraised, hlast]
      rfl
  case isFalse hgoes =>
    have hlast : s.EndsWith t ↔ ∃ event ∈ t.events, event.Ends := or_iff_left hgoes
    refine ⟨none, ⟨hraised, by simp [hgoes], by simp⟩, ?_⟩
    rw [turn, hbegin]
    simp only [hrun, hraised, hlast]
    rfl

end Session

end Chip8
