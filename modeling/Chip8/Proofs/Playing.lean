import Chip8.Proofs.Hosts
import Chip8.Proofs.Turns
import Chip8.Proofs.Windows

set_option autoImplicit false

/-!
# Sessions played to their end

A session plays its turns up to the first one that ends it, and none after that. When the turns are
used up, a closing turn ends it. Every turn that is played is drawn once, the last one also after a
fault, which is what the session then returns and the only failure that its journal gains. The count
that is told at the end is that of all ticks.

A host may refuse the window of a session, or have no room for its pictures: then it is broken off
before anything is drawn. The count has to have a rate; otherwise the end of the session is not
told.

## Main definitions

* `Chip8.Session.Throughout` — a property of every turn of a list.
* `Chip8.Session.LastTurn` — the turn that ends a session, with those before it.
* `Chip8.Session.Outcome` — what a session leaves behind that is played to its end.

## Main results

* `Chip8.Session.playFrom_eq` — a session plays on until its last turn.
* `Chip8.Session.outcome_of_start` — what a session leaves behind, for every script of turns.
-/

namespace Chip8

namespace Journal

/-- The end is told if the clock can be read and the cycles have a floating-point number. -/
lemma hindrance?_sessionEnd {j : Journal} (h : j.Reads) {cycles : ℕ}
    (hcycles : cycles < Clock.beyond) : j.hindrance? (.sessionEnd cycles) = none := by
  have hwritable : Decimal.isWritable cycles = true := by
    rw [Decimal.isWritable, decide_eq_true_eq, Int.natAbs_natCast]
    exact hcycles.trans (by decide +kernel)
  have hrate : Clock.hasRate cycles (Clock.elapsed j.start (j.clock 0)) = true := by
    rw [Clock.hasRate, Int.natAbs_natCast, decide_eq_true hcycles, Bool.true_or]
  rw [hindrance?_of_reads h, Call.hindrance?, h, hrate, hwritable]
  rfl

/-- The end is not told if the cycles have no rate. -/
lemma hindrance?_sessionEnd_of_not_hasRate {j : Journal} (h : j.Reads) {cycles : ℤ}
    (hrate : Clock.hasRate cycles (Clock.elapsed j.start (j.clock 0)) = false) :
    j.hindrance? (.sessionEnd cycles) = some (.overflow .cycles) := by
  rw [hindrance?_of_reads h, Call.hindrance?, h, hrate]
  rfl

end Journal

namespace Session

/-! ## Reporting faults -/

/-- A fault that is reported is kept as a failure, and told as long as the clock can be read. -/
lemma reporting_eq (s : Session) (fault? : Option Fault) :
    s.reporting fault? = { s with
      journal := { s.journal with
        clock := (s.reporting fault?).journal.clock
        records := (s.reporting fault?).journal.records
        failures := s.journal.failures ++ (fault?.map Error.fault).toList }
      hindrance := (s.reporting fault?).hindrance } ∧
    (s.journal.Reads → (s.reporting fault?).journal.Reads ∧
      (s.reporting fault?).hindrance = s.hindrance) := by
  cases fault? with
  | none => exact ⟨by simp [reporting], fun hreads => ⟨hreads, rfl⟩⟩
  | some fault =>
    refine ⟨rfl, fun hreads => ⟨hreads.perform _, ?_⟩⟩
    exact hindrance_report (Journal.hindrance?_of_ne_sessionEnd hreads fun cycles h => by cases h)

/-! ## All turns -/

/-- Every turn of a list has a property, which may speak of the session before it. -/
def Throughout (s : Session) (P : Session → Turn → Prop) : List Turn → Prop
  | [] => True
  | t :: turns => P s t ∧ (s.frameOf t).1.Throughout P turns

/-- What holds of every turn of a sound session holds throughout. -/
lemma throughout_of_sound {P : Session → Turn → Prop} (h : ∀ s t, s.Sound → P s t) {s : Session}
    (hs : s.Sound) (turns : List Turn) : s.Throughout P turns := by
  induction turns generalizing s with
  | nil => trivial
  | cons t turns ih => exact ⟨h s t hs, ih (along_frameOf hs t).1.sound⟩

/-- What holds throughout a list of turns and of one more holds throughout all of them. -/
lemma throughout_concat {P : Session → Turn → Prop} (s : Session) (turns : List Turn) (t : Turn) :
    s.Throughout P (turns ++ [t]) ↔ s.Throughout P turns ∧ P (s.passed turns) t := by
  induction turns generalizing s with
  | nil => exact and_comm
  | cons t' turns ih =>
    rw [List.cons_append, Throughout, Throughout, ih, passed_cons, and_assoc]

/-- A turn of a playback is told to its end. -/
def Told (s : Session) (t : Turn) : Prop :=
  (s.turn t).session.hindrance = none

/-- If the clock can be read in all turns, they are told to their end. -/
lemma told_of_reads {s : Session} (hs : s.Sound) (hhindrance : s.hindrance = none)
    (hreads : s.journal.Reads) {turns : List Turn} (hturns : ∀ t ∈ turns, t.Reads) :
    s.Throughout Told turns := by
  induction turns generalizing s with
  | nil => trivial
  | cons t turns ih =>
    obtain ⟨ht, hlater⟩ := List.forall_mem_cons.mp hturns
    obtain ⟨hfirst, htold⟩ := along_frameOf hs t
    have hreads' := hfirst.reads hreads (List.forall_mem_singleton.mpr ht)
    have hhindrance' : (s.frameOf t).1.hindrance = none := by rw [htold hreads ht, hhindrance]
    refine ⟨?_, ih hfirst.sound hhindrance' hreads' hlater⟩
    obtain ⟨fault?, -, hturn⟩ := exists_turn_eq hs t
    rw [Told, hturn, (((s.frameOf t).1.reporting_eq fault?).2 hreads').2, hhindrance']

/-! ## The last turn -/

/-- The turn that ends a session. When the given turns are used up, a closing one follows. -/
structure LastTurn (s : Session) (turns before : List Turn) (last : Turn) : Prop where
  /-- It is one of the turns of the session. -/
  isTurn : ∃ later, turns ++ [.closing] = before ++ last :: later
  /-- The session goes on after those before it. -/
  goesOn : s.Throughout (fun s t => ¬s.EndsWith t) before
  /-- It ends the session. -/
  ends : (s.passed before).EndsWith last

/-- The closing turn ends a session. -/
lemma endsWith_closing (s : Session) : s.EndsWith .closing :=
  .inl ⟨.quit, .head _, .inl rfl⟩

/-- A turn that does not end a session leaves nothing to report. -/
lemma turn_of_not_endsWith {s : Session} (hs : s.Sound) {t : Turn} (h : ¬s.EndsWith t) :
    (s.turn t).goesOn = true ∧ (s.turn t).session = (s.frameOf t).1 := by
  obtain ⟨fault?, hmet, hturn⟩ := exists_turn_eq hs t
  have hfault : fault? = none := by
    rw [← Option.not_isSome_iff_eq_none, hmet.isSome_iff]
    exact fun hstops => h (.inr hstops)
  rw [hturn, hfault]
  exact ⟨by simpa using h, rfl⟩

/-- Every session has a last turn. -/
lemma exists_lastTurn (s : Session) (turns : List Turn) :
    ∃ before last, s.LastTurn turns before last := by
  induction turns generalizing s with
  | nil => exact ⟨[], .closing, ⟨[], rfl⟩, trivial, s.endsWith_closing⟩
  | cons t turns ih =>
    by_cases hends : s.EndsWith t
    · exact ⟨[], t, ⟨turns ++ [.closing], rfl⟩, trivial, hends⟩
    · obtain ⟨before, last, ⟨later, hscript⟩, hgo, hlast⟩ := ih (s.frameOf t).1
      exact ⟨t :: before, last, ⟨later, congrArg (t :: ·) hscript⟩, ⟨hends, hgo⟩, hlast⟩

lemma playFrom_cons (s : Session) (window : Window) (drawn : ℕ) (t : Turn) (turns : List Turn) :
    s.playFrom window drawn (t :: turns) =
      if (s.turn t).session.hindrance.isSome = true then breakOff s (s.turn t) window drawn
      else if (s.turn t).goesOn = true then (s.turn t).session.playFrom window (drawn + 1) turns
      else finish (s.turn t) window (drawn + 1) :=
  rfl

/-- A session that is played is asked to end when its turns are used up. -/
lemma playFrom_concat_closing (s : Session) (window : Window) (drawn : ℕ) (turns : List Turn) :
    s.playFrom window drawn (turns ++ [.closing]) = s.playFrom window drawn turns := by
  induction turns generalizing s drawn with
  | nil =>
    have hends : ¬(s.turn .closing).goesOn = true := by
      unfold turn
      dsimp only
      split <;> exact Bool.false_ne_true
    rw [List.nil_append, playFrom_cons, if_neg hends]
    rfl
  | cons t turns ih => rw [List.cons_append, playFrom_cons, playFrom_cons, ih]

/-- **A session plays on until its last turn**, if all turns are told to their end, and turns after
the last one do not matter.

**Proof sketch.** By induction on the turns before the last one, along the recursion of `playFrom`:
each of them is drawn and followed by the next. -/
theorem playFrom_eq {s : Session} (hs : s.Sound) (window : Window) (drawn : ℕ)
    {before : List Turn} {last : Turn} (hgo : s.Throughout (fun s t => ¬s.EndsWith t) before)
    (hlast : (s.passed before).EndsWith last) (htold : s.Throughout Told (before ++ [last]))
    (later : List Turn) :
    s.playFrom window drawn (before ++ last :: later) =
      finish ((s.passed before).turn last) window (drawn + before.length + 1) := by
  induction before generalizing s drawn with
  | nil =>
    have hends : ¬(s.turn last).goesOn = true := by
      obtain ⟨fault?, -, hturn⟩ := exists_turn_eq hs last
      have hlast' : s.EndsWith last := hlast
      simp [hturn, hlast']
    have hlastTold : (s.turn last).session.hindrance = none := htold.1
    rw [List.nil_append, playFrom_cons, if_neg (by rw [hlastTold]; exact Bool.false_ne_true),
      if_neg hends]
    rfl
  | cons t before ih =>
    have hfirstTold : (s.turn t).session.hindrance = none := htold.1
    obtain ⟨hgoesOn, hsession⟩ := turn_of_not_endsWith hs hgo.1
    have hrest := ih (along_frameOf hs t).1.sound (drawn + 1) hgo.2 hlast htold.2
    rw [List.cons_append, playFrom_cons, if_neg (by rw [hfirstTold]; exact Bool.false_ne_true),
      if_pos hgoesOn, hsession, hrest, passed_cons, List.length_cons, Nat.add_right_comm drawn 1,
      Nat.add_assoc drawn]

/-! ## What a session leaves behind -/

/-- What a session leaves behind that begins at `s`, plays `before` and ends with `last`. -/
structure Outcome (s : Session) (before : List Turn) (last : Turn) (p : Playback) : Prop where
  /-- Every turn was drawn once. -/
  drawn : p.drawn = before.length + 1
  /-- The fault is that of the last frame, if there is one. -/
  met : Met (s.passed before) last p.fault
  /-- After the last frame a fault was reported, and then the end with the number of all ticks. -/
  session : p.session = ((s.passed (before ++ [last])).reporting p.fault).report
    (.sessionEnd (s.ticksOver (before ++ [last])))
  /-- The ticks that are counted have succeeded, and no other cycle was made. -/
  ticks : s.Throughout (fun s t => ∃ ticked,
    (s.attend t).machine.ticks ((s.attend t).machine.frameTicks s.perFrame.toNat) = .ok ticked ∧
      ticked.SameProgress (s.frameOf t).1.machine) (before ++ [last])
  /-- The window shows the screen as it is at the end. -/
  shown : p.shown = some (.ofDisplay p.session.machine.display s.palette s.scale)
  /-- The failures in the journal gain the fault, and no other. -/
  journal : p.session.journal = { s.journal with
    clock := p.session.journal.clock
    records := p.session.journal.records
    failures := s.journal.failures ++ (p.fault.map Error.fault).toList }
  /-- Nothing kept the session from returning but what kept its end from being told. -/
  broken : p.broken = ((s.passed (before ++ [last])).reporting p.fault).journal.hindrance?
    (.sessionEnd (s.ticksOver (before ++ [last])))
  /-- The end was told, unless the ticks are past all floating-point numbers. -/
  returned : s.ticksOver (before ++ [last]) < Clock.beyond → p.broken = none

/-- The end of a session: after the last frame a fault is reported, and then the end. -/
lemma exists_finish_eq {s : Session} (hs : s.Sound) (hcycles : s.cycles = 0) (before : List Turn)
    (last : Turn) (window : Window) (drawn : ℕ) :
    ∃ fault? final, Met (s.passed before) last fault? ∧
      ((s.passed before).turn last).session = final ∧
      final = (s.passed (before ++ [last])).reporting fault? ∧
      final = { s with
        machine := final.machine
        cycles := s.ticksOver (before ++ [last])
        clock := final.clock
        journal := { s.journal with
          clock := final.journal.clock
          records := final.journal.records
          failures := s.journal.failures ++ (fault?.map Error.fault).toList }
        hindrance := final.hindrance } ∧
      finish ((s.passed before).turn last) window drawn =
        { session := final.report (.sessionEnd (s.ticksOver (before ++ [last])))
          fault := fault?, drawn, shown := some (final.picture window)
          broken := final.hindrance <|>
            final.journal.hindrance? (.sessionEnd (s.ticksOver (before ++ [last]))) } := by
  have hall := along_passed hs (before ++ [last])
  obtain ⟨fault?, hmet, hturn⟩ := exists_turn_eq (along_passed hs before).sound last
  rw [← passed_concat] at hturn
  obtain ⟨hreporting, -⟩ := (s.passed (before ++ [last])).reporting_eq fault?
  have hcount : ((s.passed (before ++ [last])).reporting fault?).cycles =
      s.ticksOver (before ++ [last]) := by
    rw [hreporting, hall.cycles, hcycles, Nat.zero_add]
  refine ⟨fault?, _, hmet, by rw [hturn], rfl, ?_, ?_⟩
  · rw [← hcount, hreporting, hall.setting, hall.journal]
  · rw [hturn, ← hcount]
    rfl

/-- What a session leaves behind that is played to its last turn. -/
lemma outcome_finish {s : Session} (hs : s.Sound) (hcycles : s.cycles = 0)
    (hreads : s.journal.Reads) {before : List Turn} {last : Turn}
    (hturns : ∀ t ∈ before ++ [last], t.Reads) (htold : s.Throughout Told (before ++ [last])) :
    Outcome s before last
      (finish ((s.passed before).turn last) (.fitting s.scale) (0 + before.length + 1)) := by
  obtain ⟨fault?, final, hmet, hsession, hfinal, hkept, hfinish⟩ :=
    exists_finish_eq hs hcycles before last (.fitting s.scale) (0 + before.length + 1)
  have hhindrance : final.hindrance = none := by
    rw [← hsession]
    exact ((throughout_concat s before last).mp htold).2
  have hreads' : final.journal.Reads := by
    rw [hfinal]
    exact ((reporting_eq _ fault?).2
      ((along_passed hs (before ++ [last])).reads hreads hturns)).1
  have hshown : final.picture (.fitting s.scale) =
      .ofDisplay final.machine.display s.palette s.scale := by
    rw [picture, hkept, Window.framing_ofDisplay]
  have hjournal : final.journal = { s.journal with
      clock := final.journal.clock
      records := final.journal.records
      failures := s.journal.failures ++ (fault?.map Error.fault).toList } :=
    congrArg Session.journal hkept
  rw [hfinish, hhindrance]
  refine
    { drawn := by simp
      met := hmet
      session := by rw [hfinal]
      ticks := throughout_of_sound (fun _ t hs => exists_ticks_of_turn hs t) hs _
      shown := congrArg some hshown
      journal := ?_
      broken := by rw [← hfinal]; rfl
      returned := Journal.hindrance?_sessionEnd hreads' }
  generalize hending : Journal.Call.sessionEnd (s.ticksOver (before ++ [last])) = ending
  have hnone : ending.failures = [] := by rw [← hending]; rfl
  exact (Journal.perform_of_failures_eq_nil final.journal hnone).trans
    (congrArg (fun j : Journal => { j with
      clock := (final.journal.perform ending).clock
      records := (final.journal.perform ending).records }) hjournal)

/-! ## Playing -/

/-- A session is played in the window that its pictures fill, if the window is opened and there is
room for the pictures. -/
lemma play_of_hasRoom {host : Host} (hhost : host.OpensForPictures) {s : Session}
    (hscale : 1 ≤ s.scale) (hroom : Image.HasRoom host s.scale) {window : Window}
    (hopen : Window.ofScale host s.scale = .ok window) (turns : List Turn) :
    s.play host turns = s.playFrom (.fitting s.scale) 0 turns := by
  rw [play, hopen, Image.hindrance?_eq_none_iff.mpr hroom,
    Window.ofScale_eq_ok hhost hscale hroom hopen]

/-- A session whose window is refused is broken off before it is drawn. -/
lemma play_of_refused {host : Host} {s : Session} {error : Error}
    (h : Window.ofScale host s.scale = .error error) (turns : List Turn) :
    (s.play host turns).drawn = 0 ∧ (s.play host turns).broken = some error := by
  rw [play, h]
  exact ⟨rfl, rfl⟩

/-- So is one for whose pictures there is no room. -/
lemma play_of_not_hasRoom {host : Host} {s : Session} (h : ¬Image.HasRoom host s.scale)
    (turns : List Turn) :
    (s.play host turns).drawn = 0 ∧ ∃ error, (s.play host turns).broken = some error := by
  obtain ⟨error, herror⟩ := Option.ne_none_iff_exists'.mp (mt Image.hindrance?_eq_none_iff.mp h)
  cases hopen : Window.ofScale host s.scale with
  | error refused => exact (play_of_refused hopen turns).imp_right fun hbroken => ⟨refused, hbroken⟩
  | ok window =>
    rw [play, hopen, herror]
    exact ⟨rfl, _, rfl⟩

/-- A session that is drawn, and whose clock can be read in all of its turns, ends with its outcome
and does not look at what follows its last turn. -/
lemma outcome_of_lastTurn {host : Host} (hhost : host.OpensForPictures) {s : Session} (hs : s.Sound)
    (hcycles : s.cycles = 0) (hhindrance : s.hindrance = none) (hscale : 1 ≤ s.scale)
    (hroom : Image.HasRoom host s.scale) {window : Window}
    (hopen : Window.ofScale host s.scale = .ok window) (hreads : s.journal.Reads)
    {turns before : List Turn} {last : Turn} (hturns : ∀ t ∈ turns, t.Reads)
    (hlast : s.LastTurn turns before last) :
    (∀ later, s.play host (before ++ last :: later) = s.play host turns) ∧
      Outcome s before last (s.play host turns) := by
  obtain ⟨later, hscript⟩ := hlast.isTurn
  -- the closing turn brings no readings of the clock
  have hplayed : ∀ t ∈ before ++ [last], t.Reads := by
    intro t ht
    have hturn : t ∈ turns ++ [.closing] := by
      rw [hscript, List.append_cons]
      exact List.mem_append_left later ht
    rcases List.mem_append.mp hturn with hgiven | hclosing
    · exact hturns t hgiven
    · rw [List.mem_singleton.mp hclosing]
      intro clock hclock
      cases hclock
  have htold := told_of_reads hs hhindrance hreads hplayed
  have hplay (later : List Turn) : s.play host (before ++ last :: later) =
      finish ((s.passed before).turn last) (.fitting s.scale) (0 + before.length + 1) := by
    rw [play_of_hasRoom hhost hscale hroom hopen, playFrom_eq hs _ 0 hlast.goesOn hlast.ends htold]
  have hall : s.play host turns =
      finish ((s.passed before).turn last) (.fitting s.scale) (0 + before.length + 1) := by
    rw [play_of_hasRoom hhost hscale hroom hopen, ← playFrom_concat_closing, hscript,
      playFrom_eq hs _ 0 hlast.goesOn hlast.ends htold]
  rw [hall]
  exact ⟨hplay, outcome_finish hs hcycles hreads hplayed htold⟩

/-- **What a session leaves behind**, for every program that loads, every length of a frame and
every script of turns, as long as the clock can be read. If its window is opened and there is room
for its pictures, the session has a last turn, does not look at what follows it, and ends with its
outcome. Otherwise it is broken off before anything is drawn.

**Proof sketch.** A session that begins is sound, so it plays on until its last turn, since every
report is told. -/
theorem outcome_of_start {host : Host} (hhost : host.OpensForPictures) (options : Options)
    (journal : Journal) (s : Session) (turns : List Turn)
    (hstart : start options journal = .ok s) (hscale : 1 ≤ options.scale)
    (hreads : journal.Reads) (hturns : ∀ t ∈ turns, t.Reads) :
    (Image.HasRoom host options.scale → ∀ window,
      Window.ofScale host options.scale = .ok window →
        (∃ before last, s.LastTurn turns before last) ∧
        ∀ before last, s.LastTurn turns before last →
          (∀ later, s.play host (before ++ last :: later) = s.play host turns) ∧
          Outcome s before last (s.play host turns)) ∧
    (∀ error, Window.ofScale host options.scale = .error error →
      (s.play host turns).drawn = 0 ∧ (s.play host turns).broken = some error) ∧
    (¬Image.HasRoom host options.scale →
      (s.play host turns).drawn = 0 ∧ ∃ error, (s.play host turns).broken = some error) := by
  have hs := sound_of_start hstart
  obtain ⟨hscale', hcycles, hjournal, hhindrance⟩ : s.scale = options.scale ∧ s.cycles = 0 ∧
      s.journal = journal ∧ s.hindrance = none := by
    obtain ⟨palette, fresh, -, -, rfl⟩ := exists_of_start hstart
    exact ⟨rfl, rfl, rfl, rfl⟩
  rw [← hscale'] at hscale ⊢
  rw [← hjournal] at hreads
  exact ⟨fun hroom window hopen => ⟨s.exists_lastTurn turns, fun before last hlast =>
      outcome_of_lastTurn hhost hs hcycles hhindrance hscale hroom hopen hreads hturns hlast⟩,
    fun error hrefused => play_of_refused hrefused turns,
    fun hroom => play_of_not_hasRoom hroom turns⟩

/-- A program that waits for a key, draws its digit and then returns without a call. The second turn
begins anew, the third asks for the end before the key goes down, and its frame meets the return.
The fourth turn is not played. -/
theorem outcome_of_start_quit_at_fault :
    ∃ s, start { rom := [0xF0, 0x0A, 0xF0, 0x29, 0xD0, 0x05, 0x00, 0xEE], scale := 2 }
        (.blank {} fun _ => 0) = .ok s ∧
      let before : List Turn :=
        [⟨16, [], some fun _ => 20⟩, ⟨17, [.down "F5", .other], some fun n => 40 + min n 9⟩]
      let last : Turn := ⟨0, [.quit, .down "w"], none⟩
      let p := s.play .standard (before ++ [last, ⟨5, [.up "w"], none⟩])
      Outcome s before last p ∧ s.play .standard (before ++ [last]) = p ∧ p.drawn = 3 ∧
        p.fault = some { kind := .trapped .stackUnderflow, opcode := 0x00EE, pc := 0x206 } ∧
        p.session.cycles = 5 ∧ p.broken = none := by
  refine ⟨_, rfl, ?_⟩
  intro before last p
  have hturns : ∀ t ∈ before ++ [last, ⟨5, [.up "w"], none⟩], t.Reads := by
    simp only [before, last, List.cons_append, List.nil_append, List.forall_mem_cons]
    refine ⟨?_, ?_, ?_, ?_, List.forall_mem_nil _⟩ <;> rintro clock ⟨⟩ n
    · exact Clock.isReadable_of_lt (show (20 : ℤ).natAbs < _ by decide)
    · exact Clock.isReadable_of_lt (show (40 + (min n 9 : ℕ) : ℤ).natAbs < _ by omega)
  obtain ⟨hplayed, -⟩ := outcome_of_start Host.opensForPictures_standard
    { rom := [0xF0, 0x0A, 0xF0, 0x29, 0xD0, 0x05, 0x00, 0xEE], scale := 2 } (.blank {} fun _ => 0) _
    (before ++ [last, ⟨5, [.up "w"], none⟩]) rfl (by decide) (fun _ => Clock.isReadable_zero) hturns
  obtain ⟨-, hplayed⟩ := hplayed (by decide +kernel) ⟨128, 64⟩ (by decide +kernel)
  obtain ⟨hunread, houtcome⟩ := hplayed before last
    ⟨⟨_, rfl⟩, ⟨by decide +kernel, by decide +kernel, trivial⟩, by decide +kernel⟩
  exact ⟨houtcome, hunread [], by decide +kernel⟩

/-- A jump in place leaves a machine as it is. -/
lemma step_of_jump_in_place {s : Machine} {target : Fin 4096}
    (h : s.Executes (.jump target)) (hpc : s.pc = UInt16.ofNat target.val) : s.step = s :=
  Machine.step_of_run h <| by
    show Except.ok ({ s with pc := UInt16.ofNat target.val } : Machine) = .ok s
    rw [← hpc]

/-- A program that jumps in place makes all the ticks of its first frame, however long it is. -/
lemma frameTicks_of_jump_in_place {s : Machine} (hboot : Machine.boot 0 [0x12, 0x00] = .ok s)
    (n : ℕ) : s.frameTicks n = n := by
  have hjump : s.nextWord.toNat = (Instruction.jump 0x200).word ∧ s.pc = 0x200 ∧
      s.isWaiting = false := by
    cases hboot
    decide +kernel
  have hhealthy := (Machine.of_boot hboot).1
  have hstep := step_of_jump_in_place ⟨hhealthy, hjump.1⟩ hjump.2.1
  exact Machine.frameTicks_of_step_eq hstep hhealthy hjump.2.2 n

/-- A machine that jumps in place makes more ticks in a frame than there are floating-point numbers
for, if the frame is that long: the end of the session is then not told, if time has passed. -/
lemma broken_of_jump_in_place {s : Session}
    (hstart : start { rom := [0x12, 0x00], perFrame := Clock.beyond } (.blank {} fun _ => 0) =
      .ok s) :
    (s.play .standard [⟨1, [.quit], some fun _ => 1⟩]).broken = some (.overflow .cycles) := by
  have hs := sound_of_start hstart
  obtain ⟨palette, fresh, -, hboot, hsession⟩ := exists_of_start hstart
  generalize ht : (⟨1, [.quit], some fun _ => 1⟩ : Turn) = t
  have hattend : s.attend t = s.meet t := by rw [← ht]; rfl
  have hframe : (s.attend t).machine.frameTicks s.perFrame.toNat = s.perFrame.toNat := by
    rw [hattend]
    exact frameTicks_of_jump_in_place (begun_of_start hstart).machine _
  have hticks : s.ticksOver [t] = Clock.beyond := by
    show (s.attend t).machine.frameTicks s.perFrame.toNat + 0 = _
    rw [hframe, hsession, Int.toNat_natCast, Nat.add_zero]
  have hreads : s.journal.Reads := by
    rw [hsession]
    exact fun _ => Clock.isReadable_zero
  have hturn : t.Reads := by
    rw [← ht]
    rintro clock ⟨⟩ n
    exact Clock.isReadable_of_lt (show (1 : ℤ).natAbs < _ by decide)
  have hlast : s.LastTurn [t] [] t :=
    ⟨⟨[.closing], rfl⟩, trivial, .inl ⟨.quit, by rw [← ht]; exact .head _, .inl rfl⟩⟩
  have hscale : s.scale = 10 := by rw [hsession]
  have hopen : Window.ofScale .standard s.scale = .ok ⟨640, 320⟩ := by
    rw [hscale]
    decide +kernel
  obtain ⟨-, houtcome⟩ := outcome_of_lastTurn Host.opensForPictures_standard hs (by rw [hsession])
    (by rw [hsession]) (by omega) (by rw [hscale]; decide +kernel) hopen hreads
    (List.forall_mem_singleton.mpr hturn) hlast
  -- the frame is full, so that no fault is reported before the end
  have hnone : (s.play .standard [t]).fault = none := by
    rw [← Option.not_isSome_iff_eq_none, houtcome.met.isSome_iff]
    exact fun hstops => hstops.1.ne hframe
  have hupkeep := (hs.frameOf t).2
  obtain ⟨looks, hclock⟩ := hupkeep.clock
  have hfirst : (s.frameOf t).1.journal.clock 0 = 1 := by rw [hclock, ← ht]; rfl
  have hbegin : (s.frameOf t).1.journal.start = 0 := by rw [hupkeep.journal, hsession]; rfl
  rw [houtcome.broken, hnone, List.nil_append, hticks]
  refine Journal.hindrance?_sessionEnd_of_not_hasRate
    (hupkeep.reads (reads_meet hreads hturn)) ?_
  show Clock.hasRate _ (Clock.elapsed (s.frameOf t).1.journal.start _) = false
  rw [hbegin, hfirst]
  decide +kernel

/-- A window can be too large, and the ticks of a program that does nothing but jump in place too
many: then a session does not return. -/
theorem exists_broken_off :
    (∃ s, start { rom := [0x12, 0x00], scale := 257 } (.blank {} fun _ => 0) = .ok s ∧
      (s.play .standard []).drawn = 0 ∧
      (s.play .standard []).broken = some (.host ⟨.screen, "Window is too large."⟩)) ∧
    ∃ s, start { rom := [0x12, 0x00], perFrame := Clock.beyond } (.blank {} fun _ => 0) = .ok s ∧
      (s.play .standard [⟨1, [.quit], some fun _ => 1⟩]).broken = some (.overflow .cycles) :=
  ⟨⟨_, rfl, by decide +kernel⟩, _, rfl, broken_of_jump_in_place rfl⟩

end Session

end Chip8
