import Chip8.CommandLine
import Chip8.Proofs.Playing
import Chip8.Proofs.TickedFrames

set_option autoImplicit false

/-!
# Reports of runs without a window

The loop of a run without a window goes on past a fault, a screenshot is taken of the machine at its
end, and only then the fault is looked for. All the same the report is the one that frames of ticks
would give, which stop at the fault: the exit status, the record of the fault or of the end, and the
picture on the screenshot are about the first tick that reports a fault, or about the last frame.

A report needs a run that comes to its end. The seed has to be a word of sixty-four bits, the cycles
have to be counted in words of thirty-two, and a screenshot needs room, a format and a place;
otherwise an error breaks the run off, and the journal tells neither of a fault nor of the end.

## Main definitions

* `Chip8.Journal.errorTexts`, `Chip8.Journal.endings` — the errors and the ends that a journal tells
  of.
* `Chip8.CommandLine.Job`, `Chip8.CommandLine.Asks` — a run without a window, as settings ask for
  it.
* `Chip8.CommandLine.Shot`, `Chip8.CommandLine.AsksShot` — a screenshot, as settings ask for it.
* `Chip8.CommandLine.Job.Feasible`, `Chip8.CommandLine.Shot.Possible` — what comes to its end.
* `Chip8.CommandLine.Reported` — an outcome tells what frames of ticks report.
* `Chip8.CommandLine.Outcome.BrokenOff` — an outcome tells of nothing, and has no exit status.
* `Chip8.CommandLine.Truthful` — what is reported, and what is broken off.

## Main results

* `Chip8.CommandLine.screenshot_eq_ok_iff` — screenshots are taken exactly if they can be written.
* `Chip8.CommandLine.headlessEnd_eq_ok_iff` — the machine at the end of a run, if there is one.
* `Chip8.CommandLine.reported_of_run` — a run that comes to its end is reported truthfully, and any
  other is broken off.
-/

namespace Chip8

/-! ## Journals of runs without a window -/

/-- The cycles of the end that an entry tells of, if it does. -/
def Entry.ending? : Entry → Option ℤ
  | .sessionEnd cycles _ => some cycles
  | _ => none

namespace Journal

/-- What the records at the level of errors tell, in order. -/
def errorTexts (j : Journal) : List String :=
  (j.records.toList.filter fun record => record.level == Level.error.name).map fun record =>
    record.entry.text j.start

/-- The cycles of the ends that the records tell of, in order. -/
def endings (j : Journal) : List ℤ :=
  j.records.toList.filterMap fun record => record.entry.ending?

/-- A journal that lets through what is going on, by a clock that can be read, and has told of no
error and no end so far. -/
structure Ongoing (j : Journal) : Prop where
  /-- The threshold lets through what is going on. -/
  threshold : j.style.threshold.rank ≤ Level.info.rank
  /-- The clock can be read. -/
  reads : j.Reads
  /-- No error has been told of. -/
  errorTexts : j.errorTexts = []
  /-- No end has been told of. -/
  endings : j.endings = []

/-- A journal that begins by a clock that can be read. -/
lemma ongoing_blank {style : Style} (h : style.threshold.rank ≤ Level.info.rank) {clock : ℕ → ℤ}
    (hclock : ∀ n, Clock.isReadable (clock n) = true) : (blank style clock).Ongoing :=
  ⟨h, fun n => hclock (n + 1), rfl, rfl⟩

namespace Ongoing

variable {j : Journal}

/-- What a report adds to the records, if its level weighs as much as that of what is going on. -/
lemma records (hj : j.Ongoing) (call : Call) (hcall : call.hindrance? j.start j.clock = none)
    (level : Level) (hlevel : call.level = level.name) (hle : Level.info.rank ≤ level.rank) :
    (j.perform call).records.toList = j.records.toList ++ call.records j.clock := by
  have hweight : Level.weight level.name = level.rank := by cases level <;> decide +kernel
  have hadmits : ∀ record ∈ call.records j.clock,
      j.style.threshold.admits record.level = true := by
    intro record hrecord
    rw [(of_mem_records hrecord).1, hlevel, Level.admits, hweight, decide_eq_true_eq]
    exact hj.threshold.trans hle
  rw [records_perform, told_of_reads hj.reads call hcall, List.filter_eq_self.mpr hadmits]

/-- Reports of what is going on leave a journal without an error and without an end. -/
lemma perform (hj : j.Ongoing) {call : Call} (hcall : call.hindrance? j.start j.clock = none)
    (hlevel : call.level = Level.info.name)
    (hend : ∀ entry ∈ call.entries j.clock, entry.ending? = none) : (j.perform call).Ongoing := by
  have hrecords := hj.records call hcall .info hlevel le_rfl
  refine ⟨hj.threshold, hj.reads.perform call, ?_, ?_⟩
  · rw [Journal.errorTexts, hrecords, List.filter_append, List.map_append]
    refine List.append_eq_nil_iff.mpr ⟨hj.errorTexts, ?_⟩
    rw [List.map_eq_nil_iff, List.filter_eq_nil_iff]
    intro record hrecord
    rw [(of_mem_records hrecord).1, hlevel]
    decide
  · rw [Journal.endings, hrecords, List.filterMap_append]
    refine List.append_eq_nil_iff.mpr ⟨hj.endings, ?_⟩
    rw [List.filterMap_eq_nil_iff]
    exact fun record hrecord => hend _ (of_mem_records hrecord).2

/-- A fault is told as an error, in the words of its report. -/
lemma perform_fault (hj : j.Ongoing) (fault : Fault) :
    (j.perform (.failure (.fault fault))).errorTexts =
        [fault.message ++ " [" ++ Mnemonic.text fault.opcode ++ "]"] ∧
      (j.perform (.failure (.fault fault))).endings = [] := by
  have hrecords := hj.records (.failure (.fault fault)) rfl .error rfl (by decide)
  constructor
  · rw [Journal.errorTexts, hrecords, List.filter_append, List.map_append]
    exact congrArg (· ++ _) hj.errorTexts
  · rw [Journal.endings, hrecords, List.filterMap_append]
    exact congrArg (· ++ _) hj.endings

/-- An end is told with its cycles, and without an error. -/
lemma perform_sessionEnd (hj : j.Ongoing) {cycles : ℤ}
    (h : j.hindrance? (.sessionEnd cycles) = none) :
    (j.perform (.sessionEnd cycles)).errorTexts = [] ∧
      (j.perform (.sessionEnd cycles)).endings = [cycles] := by
  rw [hindrance?_of_reads hj.reads] at h
  have hrecords := hj.records (.sessionEnd cycles) h .info rfl le_rfl
  constructor
  · rw [Journal.errorTexts, hrecords, List.filter_append, List.map_append]
    exact congrArg (· ++ _) hj.errorTexts
  · rw [Journal.endings, hrecords, List.filterMap_append]
    exact congrArg (· ++ _) hj.endings

end Ongoing

end Journal

namespace CommandLine

/-! ## Runs as settings ask for them -/

/-- What a run without a window is made of. -/
structure Job where
  /-- The program. -/
  rom : List UInt8
  /-- The seed. -/
  seed : ℤ
  /-- The number of frames. -/
  frames : ℕ
  /-- The number of instructions in a frame. -/
  perFrame : ℕ

/-- What a screenshot is made of. -/
structure Shot where
  /-- The path of its file. -/
  path : String
  /-- The size of a pixel. -/
  scale : ℤ
  /-- The colours. -/
  palette : Palette

/-- The settings ask for a screenshot in a file, in named colours. -/
structure Shot.AskedFor (settings : Settings) (shot : Shot) : Prop where
  /-- A file is named. -/
  path : ∃ value name, settings.get "screenshot" = .ok value ∧ value.isYes = true ∧
    value.fileName = .ok name ∧ shot.path = Directory.normalize name
  /-- The size of a pixel is a number. -/
  scale : ∃ value, settings.get "scale" = .ok value ∧ value.number? = some shot.scale
  /-- The colours have the name that is given. -/
  palette : ∃ value, settings.get "color_scheme" = .ok value ∧
    Palette.named? value.written = some shot.palette

/-- The settings ask for a screenshot, or for none. -/
inductive AsksShot (settings : Settings) : Option Shot → Prop where
  /-- No screenshot is asked for. -/
  | none {value : Value} (h : settings.get "screenshot" = .ok value) (hno : value.isYes = false) :
    AsksShot settings none
  /-- A screenshot is asked for. -/
  | some {shot : Shot} (h : shot.AskedFor settings) : AsksShot settings (some shot)

/-- The screenshots of a display by the names of their files. -/
def Shot.pictures (shot? : Option Shot) (display : Display) : List (String × Image) :=
  shot?.toList.map fun shot => (shot.path, Image.ofDisplay display shot.palette shot.scale)

section

variable (host : Host) (showsProgress : Bool) (d : Directory)

/-- The settings ask for a run without a window. -/
structure Asks (settings : Settings) (job : Job) : Prop where
  /-- No window is wanted. -/
  headless : ∃ value, settings.get "headless" = .ok value ∧ value.isYes = true
  /-- The program is read from a file. -/
  rom : ∃ value shown, settings.get "rom" = .ok value ∧ readRom d value = .ok (job.rom, shown)
  /-- The seed is a number. -/
  seed : ∃ value, settings.get "seed" = .ok value ∧ value.seed host = .ok job.seed
  /-- The frames are a number. -/
  frames : ∃ value, settings.get "frames" = .ok value ∧ value.number? = some (job.frames : ℤ)
  /-- The instructions of a frame are a number. -/
  perFrame : ∃ value, settings.get "instructions_per_frame" = .ok value ∧
    value.number? = some (job.perFrame : ℤ)

/-- A run comes to its end: its seed is a word of sixty-four bits, and its frames can be run. -/
def Job.Feasible (job : Job) : Prop :=
  Word.fits64 job.seed = true ∧ Machine.Runnable host showsProgress job.frames job.perFrame

/-- A screenshot can be written: the host has room for the picture, knows a format for its file and
can write it, and the file can be created. -/
structure Shot.Possible (shot : Shot) : Prop where
  /-- There is room. -/
  room : Image.HasRoom host shot.scale
  /-- There is a format. -/
  format : host.formatHindrance? (d.resolve shot.path) = none
  /-- There is a place. -/
  place : d.create (d.fromRoot shot.path) (d.resolve shot.path) = .ok ()
  /-- The picture is written. -/
  written : host.writeHindrance? (d.resolve shot.path) (64 * Image.side shot.scale)
    (32 * Image.side shot.scale) = none

end

variable {host : Host} {showsProgress : Bool} {d : Directory} {settings : Settings} {job : Job}
  {shot? : Option Shot} {j : Journal}

/-! ## The screenshot -/

lemma unlessHindered_eq_ok_iff {hindrance? : Option Error} {done : Unit} :
    Screenshot.unlessHindered hindrance? = .ok done ↔ hindrance? = none := by
  cases hindrance? <;> simp [Screenshot.unlessHindered]

/-- **A screenshot is taken exactly if it can be written**, and shows the display. -/
lemma take_eq_ok_iff {shot : Shot} {name : String}
    (hname : Palette.named? name = some shot.palette) {display : Display} {image : Image} :
    Screenshot.take host display (d.resolve shot.path) (.ok shot.scale) name
        (d.create (d.fromRoot shot.path) (d.resolve shot.path)) = .ok image ↔
      shot.Possible host d ∧ image = Image.ofDisplay display shot.palette shot.scale := by
  simp only [Screenshot.take, Palette.find, hname, bind_eq_ok_iff, Image.draw_eq_ok_iff,
    unlessHindered_eq_ok_iff]
  constructor
  · rintro ⟨_, ⟨⟩, _, ⟨⟩, _, ⟨hroom, rfl⟩, _, hformat, _, hplace, _, hwritten, himage⟩
    cases himage
    rw [Image.width_ofDisplay, Image.height_ofDisplay] at hwritten
    exact ⟨⟨hroom, hformat, hplace, hwritten⟩, rfl⟩
  · rintro ⟨⟨hroom, hformat, hplace, hwritten⟩, rfl⟩
    rw [← Image.width_ofDisplay display shot.palette,
      ← Image.height_ofDisplay display shot.palette] at hwritten
    exact ⟨_, rfl, _, rfl, _, ⟨hroom, rfl⟩, (), hformat, (), hplace, (), hwritten, rfl⟩

/-- The screenshots that are asked for are taken exactly if they can be written, and show the
display. -/
lemma screenshot_eq_ok_iff (h : AsksShot settings shot?) {display : Display}
    {pictures : List (String × Image)} :
    screenshot host d settings display = .ok pictures ↔
      (∀ shot ∈ shot?, shot.Possible host d) ∧ pictures = Shot.pictures shot? display := by
  cases h with
  | none h hno =>
    have hnothing : screenshot host d settings display = .ok [] := by
      simp only [screenshot, h, ok_bind, hno]
      rfl
    rw [hnothing, Except.ok.injEq, eq_comm]
    simp [Shot.pictures]
  | @some shot h =>
    obtain ⟨value, name, hvalue, hyes, hname, hpath⟩ := h.path
    obtain ⟨scale, hscale, hnumber⟩ := h.scale
    obtain ⟨palette, hpalette, hnamed⟩ := h.palette
    have hside : scale.sideOfPixel = .ok shot.scale := by rw [Value.sideOfPixel, hnumber]
    have htake : screenshot host d settings display =
        (Screenshot.take host display (d.resolve shot.path) (.ok shot.scale) palette.written
          (d.create (d.fromRoot shot.path) (d.resolve shot.path))).map
            fun image => [(shot.path, image)] := by
      simp only [screenshot, hvalue, hyes, hname, hscale, hpalette, hside, hpath, ok_bind]
      rfl
    rw [htake, map_eq_ok_iff]
    simp [take_eq_ok_iff hnamed, Shot.pictures, eq_comm]

/-! ## The machine at the end -/

/-- A program that fits is loaded exactly if the seed is a word of sixty-four bits. -/
lemma exists_boot_iff {seed : ℤ} {rom : List UInt8} (h : rom.length ≤ romCapacity) :
    (∃ fresh, Machine.boot seed rom = .ok fresh) ↔ Word.fits64 seed = true := by
  rw [Machine.boot]
  split
  case isTrue hseed => simp [hseed, Machine.loadRom_eq_ok _ h]
  case isFalse hseed => simp [hseed]

/-- The number of cycles in a number of frames is a product of numbers. -/
lemma cycles_of_number? {frames perFrame : Value} {n k : ℤ} (hn : frames.number? = some n)
    (hk : perFrame.number? = some k) : frames.cycles host perFrame = .ok (n * k) := by
  cases frames with
  | integer | truth =>
    cases perFrame with
    | integer | truth => rw [Value.cycles, hn, hk] <;> simp
    | _ => cases hk
  | _ => cases hn

/-- A number says how often something is done. -/
lemma count_of_number? {v : Value} {n : ℤ} (h : v.number? = some n) : v.count = .ok n := by
  rw [Value.count, h]

/-- **The machine at the end of a run** has gone through all its frames, and there is one exactly if
the run comes to its end. -/
theorem headlessEnd_eq_ok_iff (hhost : host.CountsWords) (hjob : Asks host d settings job)
    (hper : 1 ≤ job.perFrame) {last : Machine} {cycles : ℤ} :
    headlessEnd host showsProgress settings job.rom = .ok (last, cycles) ↔
      ∃ fresh, Machine.boot job.seed job.rom = .ok fresh ∧
        Machine.Runnable host showsProgress job.frames job.perFrame ∧
        last = job.frames.repeat (Machine.frame job.perFrame) fresh ∧
        cycles = job.frames * job.perFrame := by
  obtain ⟨seed, hseed, hseed'⟩ := hjob.seed
  obtain ⟨frames, hframes, hframes'⟩ := hjob.frames
  obtain ⟨perFrame, hperFrame, hperFrame'⟩ := hjob.perFrame
  have hper' : (1 : ℤ) ≤ job.perFrame := by omega
  have hlast (fresh : Machine) : fresh.runHeadless job.frames job.perFrame =
      job.frames.repeat (Machine.frame job.perFrame) fresh :=
    Machine.runHeadless_eq_repeat fresh hper job.frames
  simp only [headlessEnd, hseed, hseed', hframes, hperFrame, cycles_of_number? hframes' hperFrame',
    count_of_number? hframes', count_of_number? hperFrame', ok_bind, bind_eq_ok_iff,
    Machine.ranHeadless_eq_ok_iff hhost hper', hlast]
  constructor
  · rintro ⟨fresh, hboot, _, ⟨hrunnable, rfl⟩, hend⟩
    cases hend
    exact ⟨fresh, hboot, hrunnable, rfl, rfl⟩
  · rintro ⟨fresh, hboot, hrunnable, rfl, rfl⟩
    exact ⟨fresh, hboot, _, ⟨hrunnable, rfl⟩, rfl⟩

/-! ## What is reported -/

/-- An outcome with an exit status, a journal that tells of errors and ends, and screenshots. -/
structure Outcome.Tells (outcome : Outcome) (status : ℕ) (errors : List String) (endings : List ℤ)
    (pictures : List (String × Image)) : Prop where
  /-- The exit status. -/
  status : outcome.status = .ok status
  /-- The journal tells of the errors and of the ends, and of no others. -/
  journal : ∃ journal, outcome.journal = some journal ∧
    journal.errorTexts = errors ∧ journal.endings = endings
  /-- The screenshots by the names of their files. -/
  pictures : outcome.pictures = pictures

/-- An error that the program does not handle breaks a run off: the journal has begun, but it tells
neither of an error nor of an end, and there is no screenshot. -/
structure Outcome.BrokenOff (outcome : Outcome) : Prop where
  /-- There is an error instead of an exit status. -/
  status : ∃ error, outcome.status = .error error
  /-- The journal tells of no error and of no end. -/
  journal : ∃ journal, outcome.journal = some journal ∧
    journal.errorTexts = [] ∧ journal.endings = []
  /-- There are no screenshots. -/
  pictures : outcome.pictures = []

lemma Outcome.brokenOff_iff {outcome : Outcome} :
    outcome.BrokenOff ↔ outcome.status.isOk = false ∧
      outcome.journal.map (fun journal => (journal.errorTexts, journal.endings)) = some ([], []) ∧
      outcome.pictures.isEmpty = true := by
  obtain ⟨status, journal, pictures, playback⟩ := outcome
  constructor
  · rintro ⟨⟨error, rfl⟩, ⟨journal, rfl, herrors, hendings⟩, rfl⟩
    exact ⟨rfl, congrArg some (Prod.ext herrors hendings), rfl⟩
  · rintro ⟨hstatus, hjournal, hpictures⟩
    obtain ⟨journal, rfl, htold⟩ := Option.map_eq_some_iff.mp hjournal
    cases status with
    | ok => cases hstatus
    | error error =>
      exact ⟨⟨error, rfl⟩, ⟨journal, rfl, congrArg Prod.fst htold, congrArg Prod.snd htold⟩,
        List.isEmpty_iff.mp hpictures⟩

instance (outcome : Outcome) : Decidable outcome.BrokenOff :=
  decidable_of_iff _ Outcome.brokenOff_iff.symm

/-- An outcome tells what frames of ticks of a fresh machine report. -/
structure Reported (fresh : Machine) (job : Job) (shot? : Option Shot) (outcome : Outcome) :
    Prop where
  /-- The exit status is one exactly if the ticks report a fault. -/
  status_iff : outcome.status = .ok 1 ↔
    ∃ fault, fresh.tickFrames job.perFrame job.frames = .error fault
  /-- A fault is the only error that is told of, in the words of its report. There is no end, and
  the screenshot shows the display of the machine whose tick reports the fault. -/
  faulted : ∀ fault, fresh.tickFrames job.perFrame job.frames = .error fault →
    ∃ last, fresh.FaultsAt job.perFrame job.frames last fault ∧
      outcome.Tells 1 [fault.message ++ " [" ++ Mnemonic.text fault.opcode ++ "]"] []
        (Shot.pictures shot? last.display)
  /-- Without a fault there is one end, after all cycles, and no error. The screenshot shows the
  display after the last frame. So it is for any number of cycles with a rate. -/
  finished : ∀ last, fresh.tickFrames job.perFrame job.frames = .ok last →
    job.frames * job.perFrame < Clock.beyond →
      outcome.Tells 0 [] [(job.frames * job.perFrame : ℤ)] (Shot.pictures shot? last.display)

/-- An outcome that tells of the fault of the frames tells what they report. -/
lemma Reported.of_error {fresh last : Machine} {fault : Fault} {outcome : Outcome}
    (hframes : fresh.tickFrames job.perFrame job.frames = .error fault)
    (hlast : fresh.FaultsAt job.perFrame job.frames last fault)
    (htells : outcome.Tells 1 [fault.message ++ " [" ++ Mnemonic.text fault.opcode ++ "]"] []
      (Shot.pictures shot? last.display)) : Reported fresh job shot? outcome := by
  refine ⟨iff_of_true htells.status ⟨fault, hframes⟩, fun fault' hfault => ?_, fun last' hok => ?_⟩
  · cases hframes.symm.trans hfault
    exact ⟨last, hlast, htells⟩
  · cases hframes.symm.trans hok

/-- An outcome that tells of the end of the frames tells what they report. -/
lemma Reported.of_ok {fresh last : Machine} {outcome : Outcome}
    (hframes : fresh.tickFrames job.perFrame job.frames = .ok last)
    (hstatus : outcome.status ≠ .ok 1)
    (htells : job.frames * job.perFrame < Clock.beyond →
      outcome.Tells 0 [] [(job.frames * job.perFrame : ℤ)] (Shot.pictures shot? last.display)) :
    Reported fresh job shot? outcome := by
  refine ⟨iff_of_false hstatus ?_, fun fault hfault => ?_, fun last' hok => ?_⟩
  · rintro ⟨fault, hfault⟩
    cases hframes.symm.trans hfault
  · cases hframes.symm.trans hfault
  · cases hframes.symm.trans hok
    exact htells

/-- What is reported of a run, and what is broken off. -/
structure Truthful (host : Host) (showsProgress : Bool) (d : Directory) (job : Job)
    (shot? : Option Shot) (outcome : Outcome) : Prop where
  /-- A run whose cycles are counted in words comes to its end. -/
  feasible : Word.fits64 job.seed = true → Machine.Countable job.frames job.perFrame →
    job.Feasible host showsProgress
  /-- With a progress bar only such runs do. -/
  counted : showsProgress = true → job.Feasible host showsProgress →
    Machine.Countable job.frames job.perFrame
  /-- A run that comes to its end is reported, if its screenshot can be written. -/
  reported : job.Feasible host showsProgress → (∀ shot ∈ shot?, shot.Possible host d) →
    ∃ fresh, Machine.boot job.seed job.rom = .ok fresh ∧ Reported fresh job shot? outcome
  /-- Any other is broken off. -/
  brokenOff : ¬(job.Feasible host showsProgress ∧ ∀ shot ∈ shot?, shot.Possible host d) →
    outcome.BrokenOff

/-! ## The verdict -/

/-- A report that meets no hindrance is told. -/
lemma telling_of_hindrance? {call : Journal.Call} (h : j.hindrance? call = none)
    (pictures : List (String × Image)) (next : Journal → Outcome) :
    telling pictures call next j = next (j.perform call) := by
  rw [telling, h]

/-- The verdict on a machine that stopped is its fault. -/
lemma tells_verdict_of_fault (hj : j.Ongoing) {machine : Machine} {fault : Fault}
    (h : machine.checked = .error fault) (cycles : ℤ) (pictures : List (String × Image)) :
    (verdict machine cycles pictures j).Tells 1
      [fault.message ++ " [" ++ Mnemonic.text fault.opcode ++ "]"] [] pictures := by
  rw [verdict, h]
  dsimp only
  rw [telling_of_hindrance? (Journal.hindrance?_of_reads hj.reads _)]
  exact ⟨rfl, ⟨_, rfl, hj.perform_fault fault⟩, rfl⟩

/-- The verdict on a machine that runs is the end, if its cycles have a rate. -/
lemma tells_verdict_of_ok (hj : j.Ongoing) {machine machine' : Machine}
    (h : machine.checked = .ok machine') {cycles : ℕ} (hcycles : cycles < Clock.beyond)
    (pictures : List (String × Image)) :
    (verdict machine cycles pictures j).Tells 0 [] [(cycles : ℤ)] pictures := by
  have htold := Journal.hindrance?_sessionEnd hj.reads hcycles
  rw [verdict, h]
  dsimp only
  rw [telling_of_hindrance? htold]
  exact ⟨rfl, ⟨_, rfl, hj.perform_sessionEnd htold⟩, rfl⟩

/-- The exit status is one only if there is a fault. -/
lemma status_verdict_ne_of_ok {machine machine' : Machine} (h : machine.checked = .ok machine')
    (cycles : ℤ) (pictures : List (String × Image)) :
    (verdict machine cycles pictures j).status ≠ .ok 1 := by
  rw [verdict, h]
  dsimp only
  rw [telling]
  split <;> simp

/-! ## Runs -/

/-- A run that comes to its end is a verdict on the machine after all frames, whose screenshot has
been told of before. -/
lemma exists_runHeadless_eq (hhost : host.CountsWords) (hj : j.Ongoing)
    (hjob : Asks host d settings job) (hper : 1 ≤ job.perFrame) (hshot : AsksShot settings shot?)
    (hrunnable : Machine.Runnable host showsProgress job.frames job.perFrame)
    (hpossible : ∀ shot ∈ shot?, shot.Possible host d) {fresh last : Machine}
    (hboot : Machine.boot job.seed job.rom = .ok fresh)
    (hlast : job.frames.repeat (Machine.frame job.perFrame) fresh = last) :
    ∃ journal : Journal, journal.Ongoing ∧
      runHeadless host showsProgress d settings job.rom j =
        verdict last (job.frames * job.perFrame) (Shot.pictures shot? last.display) journal := by
  have hend := (headlessEnd_eq_ok_iff hhost hjob hper).mpr
    ⟨fresh, hboot, hrunnable, hlast.symm, rfl⟩
  have hpictures : screenshot host d settings last.display =
      .ok (Shot.pictures shot? last.display) := (screenshot_eq_ok_iff hshot).mpr ⟨hpossible, rfl⟩
  rw [runHeadless, hend]
  dsimp only
  rw [hpictures]
  cases shot? with
  | none => exact ⟨j, hj, rfl⟩
  | some shot =>
    exact ⟨_, hj.perform rfl rfl (by simp [Journal.Call.entries, Entry.ending?]),
      telling_of_hindrance? (Journal.hindrance?_of_reads hj.reads _) _ _⟩

/-- **A run that comes to its end is reported truthfully.**

**Proof sketch.** The machine at the end of the run, asked for its fault, answers what the ticks
report, and its display is the one at the fault. The screenshot comes before the verdict, and does
not depend on it. -/
theorem reported_runHeadless (hhost : host.CountsWords) (hj : j.Ongoing)
    (hjob : Asks host d settings job) (hper : 1 ≤ job.perFrame) (hshot : AsksShot settings shot?)
    (hrunnable : Machine.Runnable host showsProgress job.frames job.perFrame)
    (hpossible : ∀ shot ∈ shot?, shot.Possible host d) {fresh : Machine}
    (hboot : Machine.boot job.seed job.rom = .ok fresh) :
    Reported fresh job shot? (runHeadless host showsProgress d settings job.rom j) := by
  obtain ⟨hhealthy, -⟩ := Machine.of_boot hboot
  obtain ⟨last, hlast⟩ : ∃ last, job.frames.repeat (Machine.frame job.perFrame) fresh = last :=
    ⟨_, rfl⟩
  obtain ⟨journal, hongoing, hrun⟩ :=
    exists_runHeadless_eq hhost hj hjob hper hshot hrunnable hpossible hboot hlast
  have hchecked := Machine.checked_repeat_frame hhealthy job.perFrame job.frames
  rw [hlast] at hchecked
  rw [hrun]
  cases hframes : fresh.tickFrames job.perFrame job.frames with
  | error fault =>
    obtain ⟨stopped, hstopped⟩ := Machine.tickFrames_eq_error_iff.mp hframes
    have hdisplay := Machine.display_of_faultsAt hhealthy hstopped
    rw [hlast] at hdisplay
    rw [hdisplay]
    exact .of_error hframes hstopped
      (tells_verdict_of_fault hongoing (hchecked.trans hframes) _ _)
  | ok last' =>
    obtain ⟨hrepeat, -⟩ := Machine.repeat_frame_of_tickFrames hhealthy hframes
    obtain rfl : last = last' := hlast.symm.trans hrepeat
    refine .of_ok hframes (status_verdict_ne_of_ok (hchecked.trans hframes) _ _) fun hcycles => ?_
    rw [← Int.natCast_mul]
    exact tells_verdict_of_ok hongoing (hchecked.trans hframes) hcycles _

/-- A run that cannot come to its end is broken off. -/
lemma brokenOff_runHeadless (hhost : host.CountsWords) (hj : j.Ongoing)
    (hjob : Asks host d settings job) (hper : 1 ≤ job.perFrame)
    (hrom : job.rom.length ≤ romCapacity) (hshot : AsksShot settings shot?)
    (h : ¬(job.Feasible host showsProgress ∧ ∀ shot ∈ shot?, shot.Possible host d)) :
    (runHeadless host showsProgress d settings job.rom j).BrokenOff := by
  have hbroken (error : Error) : (Outcome.broken j error).BrokenOff :=
    ⟨⟨error, rfl⟩, ⟨j, rfl, hj.errorTexts, hj.endings⟩, rfl⟩
  rw [runHeadless]
  cases hend : headlessEnd host showsProgress settings job.rom with
  | error error => exact hbroken error
  | ok result =>
    obtain ⟨fresh, hboot, hrunnable, -, -⟩ := (headlessEnd_eq_ok_iff hhost hjob hper).mp hend
    have hfeasible : job.Feasible host showsProgress :=
      ⟨(exists_boot_iff hrom).mp ⟨fresh, hboot⟩, hrunnable⟩
    dsimp only
    cases hpictures : screenshot host d settings result.1.display with
    | error error => exact hbroken error
    | ok pictures => exact absurd ⟨hfeasible, ((screenshot_eq_ok_iff hshot).mp hpictures).1⟩ h

/-- Arguments that ask for a run without a window lead to one, in a journal that has told of what is
going on. -/
lemma exists_run_eq {arguments : List String}
    (hsettings : CommandLine.settings arguments = .ok settings) {level : Level}
    (hlevel : threshold settings = .ok level) (hlight : level.rank ≤ Level.info.rank)
    (hjob : Asks host d settings job) {clock : ℕ → ℤ}
    (hclock : ∀ n, Clock.isReadable (clock n) = true) (turns : List Turn) :
    ∃ journal : Journal, journal.Ongoing ∧
      run host showsProgress d arguments clock turns =
        runHeadless host showsProgress d settings job.rom journal := by
  obtain ⟨value, shown, hvalue, hread⟩ := hjob.rom
  obtain ⟨headless, hheadless, hyes⟩ := hjob.headless
  have hblank : (Journal.blank { threshold := level } clock).Ongoing :=
    Journal.ongoing_blank hlight hclock
  have hbegin : journal settings clock = .ok (Journal.blank { threshold := level } clock) := by
    rw [journal, hlevel, ok_bind, Journal.begin_eq_ok_iff]
    exact ⟨hclock 0, rfl⟩
  have hbegun : ((Journal.blank { threshold := level } clock).perform
      (.sessionStart settings)).Ongoing := by
    refine hblank.perform rfl rfl fun entry hentry => ?_
    obtain ⟨line, -, rfl⟩ := List.mem_map.mp hentry
    rfl
  have hloaded : (((Journal.blank { threshold := level } clock).perform
      (.sessionStart settings)).perform (.romLoaded shown job.rom.length)).Ongoing :=
    hbegun.perform rfl rfl (by simp [Journal.Call.entries, Entry.ending?])
  refine ⟨_, hloaded, ?_⟩
  simp only [run, hsettings, hbegin]
  rw [telling_of_hindrance? (Journal.hindrance?_of_reads hblank.reads _), runWith, hvalue]
  -- A file is read only under a name, so that the setting is not one that holds nothing.
  cases value with
  | text name =>
    dsimp only
    rw [hread]
    dsimp only
    rw [telling_of_hindrance? (Journal.hindrance?_of_reads hbegun.reads _), runRom, hheadless]
    exact if_pos hyes
  | _ => cases hread

/-- A folder with one file in it. -/
def folderWith (folder name : String) (bytes : List UInt8) : Directory where
  path := "/" ++ folder
  place := [folder]
  item? place :=
    if place = [] ∨ place = [folder] then some .folder
    else if place = [folder, name] then some (.file bytes)
    else none

end CommandLine

end Chip8
