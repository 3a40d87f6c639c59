import Chip8.Log.Journal
import Mathlib.Data.List.TakeWhile
import Mathlib.Tactic

set_option autoImplicit false

/-!
# What journals keep

A journal keeps those of the records that a report asks for whose level its threshold lets through,
and it keeps every failure that is reported. Which records are asked for does not depend on the
threshold: those of the lines of the report, each with a reading of the clock of its own, up to the
first whose time has no number of seconds.

Hence two journals of the same reports whose thresholds differ keep the same failures, and the one
with the heavier threshold keeps those records of the other that it lets through.

## Main definitions

* `Chip8.Level.CountsAs` — the level that a name counts as.
* `Chip8.Journal.Reads` — the clock of a journal can be read.
* `Chip8.Journal.Report` — a report with the times at which it is made.
* `Chip8.Journal.Report.records` — the records that a report asks for.
* `Chip8.Journal.hear`, `Chip8.Journal.hearAll` — the journal after reports.
* `Chip8.Journal.Sifted` — what two journals of the same reports have in common.

## Main results

* `Chip8.Level.admits_iff` — what a threshold lets through.
* `Chip8.Journal.records_perform` — a report adds the lines that can be made.
* `Chip8.Journal.records_hearAll` — a journal keeps the records that were asked for, as far as its
  threshold lets them through.
* `Chip8.Journal.sifted_of_begin` — a heavier threshold only removes records.
-/

namespace Chip8

/-! ## Levels -/

namespace Level

lemma mem_all (level : Level) : level ∈ all := by
  cases level <;> decide

lemma name_injective : Function.Injective name := by
  have hall : ∀ level ∈ all, ∀ level' ∈ all, level.name = level'.name → level = level' := by
    decide
  intro level level'
  exact hall level (mem_all level) level' (mem_all level')

lemma ofName?_eq_some_iff {text : String} {level : Level} :
    ofName? text = some level ↔ capitals text = level.name := by
  constructor
  · intro h
    have hname : level.name = capitals text := by simpa using List.find?_some h
    exact hname.symm
  · intro h
    obtain ⟨other, hother⟩ : ∃ other, ofName? text = some other := by
      rw [← Option.isSome_iff_exists, ofName?, List.find?_isSome]
      exact ⟨level, mem_all level, beq_iff_eq.mpr h.symm⟩
    have hname : other.name = capitals text := by simpa using List.find?_some hother
    rw [hother, name_injective (hname.trans h)]

lemma ofName?_eq_none_iff {text : String} :
    ofName? text = none ↔ ∀ level : Level, capitals text ≠ level.name := by
  rw [Option.eq_none_iff_forall_ne_some]
  exact forall_congr' fun level => ofName?_eq_some_iff.not

/-- A text counts as a level: its capitals are the name of the level, or they are the name of no
level and the level is `INFO`. -/
def CountsAs (text : String) (level : Level) : Prop :=
  capitals text = level.name ∨ level = .info ∧ ∀ other : Level, capitals text ≠ other.name

lemma exists_countsAs (text : String) : ∃ level, CountsAs text level := by
  cases h : ofName? text with
  | none => exact ⟨.info, .inr ⟨rfl, ofName?_eq_none_iff.mp h⟩⟩
  | some level => exact ⟨level, .inl (ofName?_eq_some_iff.mp h)⟩

lemma CountsAs.weight_eq {text : String} {level : Level} (h : CountsAs text level) :
    weight text = level.rank := by
  unfold weight
  rcases h with hname | ⟨rfl, hnone⟩
  · rw [ofName?_eq_some_iff.mpr hname]
  · rw [ofName?_eq_none_iff.mpr hnone]

/-- **A threshold lets through what counts as a level that is at least as heavy.** -/
theorem admits_iff {threshold : Level} {text : String} :
    threshold.admits text = true ↔
      ∃ level, CountsAs text level ∧ threshold.rank ≤ level.rank := by
  rw [admits, decide_eq_true_eq]
  constructor
  · intro h
    obtain ⟨level, hlevel⟩ := exists_countsAs text
    exact ⟨level, hlevel, hlevel.weight_eq ▸ h⟩
  · rintro ⟨level, hlevel, h⟩
    rwa [hlevel.weight_eq]

/-- What a threshold lets through, every lighter one does, too. -/
lemma admits_of_le {low high : Level} (hle : low.rank ≤ high.rank) {text : String}
    (h : high.admits text = true) : low.admits text = true := by
  rw [admits, decide_eq_true_eq] at h ⊢
  exact hle.trans h

lemma capital_toLower (c : Char) : capital c.toLower = capital c := by
  by_cases hupper : 'A'.val ≤ c.val ∧ c.val ≤ 'Z'.val
  · have hall : ∀ n : Fin 26,
        capital (Char.ofNat (65 + n.val)).toLower = capital (Char.ofNat (65 + n.val)) := by
      decide
    have hlow : 65 ≤ c.toNat := hupper.1
    have hhigh : c.toNat ≤ 90 := hupper.2
    have hc := hall ⟨c.toNat - 65, by omega⟩
    rwa [Nat.add_sub_cancel' hlow, Char.ofNat_toNat] at hc
  · have hlower : c.toLower = c := dif_neg hupper
    rw [hlower]

/-- Capitals do not tell in which case a text was written. -/
lemma capitals_toLower (text : String) : capitals text.toLower = capitals text := by
  have hchars : text.toLower.toList = text.toList.map Char.toLower := String.toList_map
  rw [capitals, capitals, hchars, List.map_map]
  exact congrArg String.ofList (List.map_congr_left fun c _ => capital_toLower c)

/-- What passes a heavier threshold has passed every lighter one. -/
lemma filter_admits_of_le {low high : Level} (hle : low.rank ≤ high.rank) (records : List Record) :
    (records.filter fun record => low.admits record.level).filter
        (fun record => high.admits record.level) =
      records.filter fun record => high.admits record.level := by
  rw [List.filter_filter]
  refine List.filter_congr fun record _ => ?_
  cases hhigh : high.admits record.level with
  | true => rw [admits_of_le hle hhigh]; rfl
  | false => rfl

/-- Two names that differ in case only weigh the same. -/
lemma admits_congr {text text' : String} (h : text.toLower = text'.toLower) (threshold : Level) :
    threshold.admits text = threshold.admits text' := by
  have hcapitals : capitals text = capitals text' := by
    rw [← capitals_toLower text, h, capitals_toLower]
  rw [admits, admits, weight, weight, ofName?, ofName?, hcapitals]

end Level

/-- Readings of a clock within sixty-four bits have a number of seconds. -/
lemma Clock.isReadable_of_lt {ms : ℤ} (h : ms.natAbs < 0x10000000000000000) :
    isReadable ms = true :=
  decide_eq_true (h.trans (by decide +kernel))

lemma Clock.isReadable_zero : isReadable 0 = true :=
  isReadable_of_lt (by decide)

namespace Journal

/-! ## Times that can be read -/

/-- A journal begins exactly if the first reading of its clock can be read. -/
lemma begin_eq_ok_iff {style : Style} {clock : ℕ → ℤ} {j : Journal} :
    begin style clock = .ok j ↔ Clock.isReadable (clock 0) = true ∧ j = blank style clock := by
  rw [begin]
  by_cases hread : Clock.isReadable (clock 0) = true
  · rw [if_pos hread, Except.ok.injEq, eq_comm, and_iff_right hread]
  · rw [if_neg hread]
    exact ⟨nofun, fun h => absurd h.1 hread⟩

/-- All readings of the clock that are still to come have a number of seconds. -/
def Reads (j : Journal) : Prop :=
  ∀ n, Clock.isReadable (j.clock n) = true

/-- This stays so, however often the clock is looked at. -/
lemma Reads.perform {j : Journal} (h : j.Reads) (call : Call) : (j.perform call).Reads :=
  fun n => h (n + call.looks)

/-! ## One report -/

/-- A line of a report is told at its level, and tells one of its entries. -/
lemma of_mem_records {call : Call} {clock : ℕ → ℤ} {record : Record}
    (h : record ∈ call.records clock) :
    record.level = call.level ∧ record.entry ∈ call.entries clock := by
  obtain ⟨i, hi, rfl⟩ := List.mem_mapIdx.mp h
  exact ⟨rfl, List.getElem_mem hi⟩

/-- So is a line that can be made. -/
lemma of_mem_told {j : Journal} {call : Call} {record : Record} (h : record ∈ j.told call) :
    record.level = call.level ∧ record.entry ∈ call.entries j.clock := by
  unfold told at h
  split at h
  · cases h
  · exact of_mem_records ((List.takeWhile_prefix _).subset h)

/-- **A report adds the lines that can be made**, as far as the threshold lets them through. -/
lemma records_perform (j : Journal) (call : Call) :
    (j.perform call).records.toList = j.records.toList ++
      (j.told call).filter fun record => j.style.threshold.admits record.level := by
  have hlevel : (j.told call).filter (fun record => j.style.threshold.admits record.level) =
      (j.told call).filter fun _ => j.style.threshold.admits call.level :=
    List.filter_congr fun record hrecord => by rw [(of_mem_told hrecord).1]
  rw [hlevel, perform]
  cases hadmits : j.style.threshold.admits call.level <;> simp

/-- A report that is about no failure adds records to a journal, looks at its clock, and changes
nothing else. -/
lemma perform_of_failures_eq_nil (j : Journal) {call : Call} (h : call.failures = []) :
    j.perform call =
      { j with clock := (j.perform call).clock, records := (j.perform call).records } := by
  have hfailures : (j.perform call).failures = j.failures := by
    show j.failures ++ call.failures = j.failures
    rw [h, Array.appendList_nil]
  exact congrArg (fun failures : Array Error => { j.perform call with failures }) hfailures

/-- As long as the clock can be read all lines can be made, those of a report that is hindered at
its beginning apart. -/
lemma told_of_reads {j : Journal} (h : j.Reads) (call : Call)
    (hcall : call.hindrance? j.start j.clock = none) : j.told call = call.records j.clock := by
  rw [told, hcall]
  refine List.takeWhile_eq_self_iff.mpr fun record hrecord => ?_
  obtain ⟨i, hi, rfl⟩ := List.mem_mapIdx.mp hrecord
  rw [hasLine, h, Bool.or_true]

/-- As long as the clock can be read, a report meets no hindrance that it does not meet at its
beginning. -/
lemma hindrance?_of_reads {j : Journal} (h : j.Reads) (call : Call) :
    j.hindrance? call = call.hindrance? j.start j.clock := by
  have hlines : (call.records j.clock).all j.hasLine = true := by
    refine List.all_eq_true.mpr fun record hrecord => ?_
    obtain ⟨i, hi, rfl⟩ := List.mem_mapIdx.mp hrecord
    rw [hasLine, h, Bool.or_true]
  rw [hindrance?, hlines, Bool.not_true, Bool.and_false, if_neg Bool.false_ne_true]
  split <;> simp_all

/-! ## Reports with their times -/

/-- A report with the readings of the clock at which it is made. -/
structure Report where
  /-- The readings of the clock, one for each look at it. -/
  clock : ℕ → ℤ
  /-- What is reported. -/
  call : Call

namespace Report

/-- The records that a report asks for since a reading of the clock, whatever the threshold is:
those of its lines, with or without times, up to the first that cannot be made. -/
def records (timestamps : Bool) (start : ℤ) (report : Report) : List Record :=
  match report.call.hindrance? start report.clock with
  | some _ => []
  | none => (report.call.records report.clock).takeWhile fun record =>
      !timestamps || Clock.isReadable record.time

/-- The failure that is reported, if one is. -/
def failure? (report : Report) : Option Error :=
  match report.call with
  | .failure error => some error
  | _ => none

lemma failures_call (report : Report) : report.call.failures = report.failure?.toList := by
  obtain ⟨clock, call⟩ := report
  cases call <;> rfl

end Report

/-- The journal after a report. -/
def hear (j : Journal) (report : Report) : Journal :=
  (j.setClock report.clock).perform report.call

/-- The journal after reports, one after the other. -/
def hearAll (j : Journal) (reports : List Report) : Journal :=
  reports.foldl hear j

/-- **A report adds the records that it asks for**, as far as the threshold lets them through. -/
lemma records_hear (j : Journal) (report : Report) :
    (j.hear report).records.toList = j.records.toList ++
      (report.records j.style.timestamps j.start).filter fun record =>
        j.style.threshold.admits record.level :=
  (j.setClock report.clock).records_perform report.call

lemma failures_hear (j : Journal) (report : Report) :
    (j.hear report).failures = j.failures ++ report.failure?.toList := by
  rw [← report.failures_call]
  rfl

/-! ## All reports -/

/-- Reports change neither the style of a journal nor its start. -/
lemma style_and_start_hearAll (j : Journal) (reports : List Report) :
    (j.hearAll reports).style = j.style ∧ (j.hearAll reports).start = j.start := by
  induction reports generalizing j with
  | nil => exact ⟨rfl, rfl⟩
  | cons report reports ih =>
    obtain ⟨hstyle, hstart⟩ := ih (j.hear report)
    exact ⟨hstyle, hstart⟩

/-- **A journal keeps the records that were asked for**, in order, as far as its threshold lets them
through.

**Proof sketch.** By induction on the reports, with `records_hear` for each. -/
theorem records_hearAll (j : Journal) (reports : List Report) :
    (j.hearAll reports).records.toList = j.records.toList ++
      (reports.flatMap (Report.records j.style.timestamps j.start)).filter fun record =>
        j.style.threshold.admits record.level := by
  induction reports generalizing j with
  | nil => simp [hearAll]
  | cons report reports ih =>
    show ((j.hear report).hearAll reports).records.toList = _
    rw [ih, records_hear, List.flatMap_cons, List.filter_append, List.append_assoc]
    rfl

/-- A journal keeps every failure that was reported, in order. -/
theorem failures_hearAll (j : Journal) (reports : List Report) :
    (j.hearAll reports).failures.toList =
      j.failures.toList ++ reports.filterMap Report.failure? := by
  induction reports generalizing j with
  | nil => simp [hearAll]
  | cons report reports ih =>
    show ((j.hear report).hearAll reports).failures.toList = _
    rw [ih, failures_hear]
    cases hfailure : report.failure? <;> simp [hfailure]

/-! ## Two thresholds -/

/-- What two journals of the same reports have in common, one with a lighter and one with a heavier
threshold. -/
structure Sifted (low high : Level) (reports : List Report) (loud quiet : Journal) : Prop where
  /-- At the lighter threshold what the reports ask for is kept as far as it is let through. -/
  told : loud.records.toList =
    (reports.flatMap (Report.records loud.style.timestamps loud.start)).filter fun record =>
      low.admits record.level
  /-- At the heavier threshold those of these records are kept that are let through. -/
  kept : quiet.records.toList = loud.records.toList.filter fun record => high.admits record.level
  /-- Their lines are the same. -/
  lines : quiet.lines = String.join
    ((loud.records.toList.filter fun record => high.admits record.level).map loud.line)
  /-- A name is let through if it counts as a level that is at least as heavy. -/
  weighed : ∀ text, high.admits text = true ↔
    ∃ level, Level.CountsAs text level ∧ high.rank ≤ level.rank
  /-- The case in which it is written does not count. -/
  anyCase : ∀ text text' : String, text.toLower = text'.toLower →
    high.admits text = high.admits text'
  /-- At the lighter threshold every failure that was reported is kept. -/
  failures : loud.failures.toList = reports.filterMap Report.failure?
  /-- At the heavier threshold the same failures are kept, whether their records are or not. -/
  sameFailures : quiet.failures = loud.failures

/-- **A heavier threshold only removes records**, whatever is reported and whatever the clock shows.

**Proof sketch.** Both journals keep what was asked for, as far as they let it through, and what the
heavier threshold lets through the lighter one does, too. A line depends on the record, the start
and what the style says beside the threshold. -/
theorem sifted_of_begin (style : Style) (clock : ℕ → ℤ) {low high : Level}
    (hle : low.rank ≤ high.rank) (loud : Journal)
    (hbegin : begin { style with threshold := low } clock = .ok loud) (reports : List Report) :
    ∃ quiet, begin { style with threshold := high } clock = .ok quiet ∧
      Sifted low high reports (loud.hearAll reports) (quiet.hearAll reports) := by
  obtain ⟨hread, rfl⟩ := begin_eq_ok_iff.mp hbegin
  refine ⟨blank { style with threshold := high } clock, begin_eq_ok_iff.mpr ⟨hread, rfl⟩, ?_⟩
  have hstyle (level : Level) :=
    (blank { style with threshold := level } clock).style_and_start_hearAll reports
  have hrecords (level : Level) :
      ((blank { style with threshold := level } clock).hearAll reports).records.toList =
        (reports.flatMap (Report.records style.timestamps (clock 0))).filter fun record =>
          level.admits record.level :=
    records_hearAll _ reports
  have hfailures (level : Level) :
      ((blank { style with threshold := level } clock).hearAll reports).failures.toList =
        reports.filterMap Report.failure? :=
    failures_hearAll _ reports
  have hkept := Level.filter_admits_of_le hle
    (reports.flatMap (Report.records style.timestamps (clock 0)))
  have hline : ((blank { style with threshold := high } clock).hearAll reports).line =
      ((blank { style with threshold := low } clock).hearAll reports).line := by
    funext record
    simp only [line, head, hstyle]
    rfl
  refine
    { told := ?_
      kept := ?_
      lines := ?_
      weighed := fun text => Level.admits_iff
      anyCase := fun text text' h => Level.admits_congr h high
      failures := hfailures low
      sameFailures := Array.toList_inj.mp ((hfailures high).trans (hfailures low).symm) }
  · rw [hrecords, (hstyle low).1, (hstyle low).2]
    rfl
  · rw [hrecords, hrecords, hkept]
  · rw [Journal.lines, linesFrom, List.drop_zero, hline, hrecords, hrecords, hkept]

/-- Of a session with an undefined word the heaviest threshold keeps the one record whose level is
its name in small letters, and the fault, whose record it does not keep. At the lightest one every
line has a time of its own. -/
theorem sifted_of_begin_fault_unrecorded :
    let ticking (first : ℤ) (n : ℕ) : ℤ := first + n
    let reports : List Report :=
      [⟨ticking 0, .sessionStart [("scale", .integer 10)]⟩,
        ⟨ticking 10, .message "Notice" "of no known level"⟩,
        ⟨ticking 20, .instruction 0x200 0x5001⟩,
        ⟨ticking 20, .message "critical" "in small letters"⟩,
        ⟨ticking 20, .failure (.fault ⟨.trapped .undefinedOpcode, 0x5001, 0x200⟩)⟩,
        ⟨ticking 30, .sessionEnd 0⟩]
    let loud := blank { threshold := .debug } (ticking 0)
    Level.debug.rank ≤ Level.critical.rank ∧
      begin { threshold := .debug } (ticking 0) = .ok loud ∧
      ∃ quiet, begin { threshold := .critical } (ticking 0) = .ok quiet ∧
        Sifted .debug .critical reports (loud.hearAll reports) (quiet.hearAll reports) ∧
        (loud.hearAll reports).records.toList.map (fun record => (record.time, record.level)) =
          [(0, "INFO"), (1, "INFO"), (2, "INFO"), (3, "INFO"), (10, "Notice"), (20, "DEBUG"),
            (20, "critical"), (20, "ERROR"), (31, "INFO")] ∧
        (quiet.hearAll reports).records.toList.map Record.level = ["critical"] ∧
        (quiet.hearAll reports).failures =
          #[.fault ⟨.trapped .undefinedOpcode, 0x5001, 0x200⟩] := by
  intro ticking reports loud
  have hread : Clock.isReadable (ticking 0 0) = true := by decide +kernel
  have hbegin (style : Style) : begin style (ticking 0) = .ok (blank style (ticking 0)) :=
    begin_eq_ok_iff.mpr ⟨hread, rfl⟩
  obtain ⟨quiet, hquiet, h⟩ :=
    sifted_of_begin {} (ticking 0) (by decide : Level.debug.rank ≤ Level.critical.rank) loud
      (hbegin _) reports
  refine ⟨by decide, hbegin _, quiet, hquiet, h, ?_⟩
  obtain rfl := Except.ok.inj ((hbegin _).symm.trans hquiet)
  exact ⟨by decide +kernel, by decide +kernel, by decide +kernel⟩

end Journal

end Chip8
