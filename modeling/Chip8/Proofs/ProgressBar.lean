import Chip8.Proofs.Frames

set_option autoImplicit false

/-!
# What a progress bar is told

A loop opens its bar with the first iteration, moves it on by a chunk whenever a chunk of iterations
is done, moves it on by what is left of the total with the last iteration, and closes it. These are
four conditions on the number of the iteration, and several of them can hold at once. Taken together
over a whole loop they come to one opening, a list of steps that add up to the total, and one
closing.

A report changes nothing about the result of a loop. But it compares the numbers of the iterations
in words of thirty-two bits from either end, so that it is refused for totals far below zero, where
the loop without it does nothing.

## Main definitions

* `Chip8.Notice`, `Chip8.Progress.noticesOf` — what a loop tells its bar.
* `Chip8.Progress.chunks` — the steps by which a bar is moved on.
* `Chip8.Progress.counted`, `Chip8.Progress.reported` — a loop on a host, without a report and with
  one.
* `Chip8.Progress.KeepsAccount` — how a loop and its bar go together.
* `Chip8.Progress.Reports` — what a loop with a report guarantees.

## Main results

* `Chip8.Progress.snd_scanFirst` — a bar is what the notices make of it.
* `Chip8.Progress.noticesOf_eq_of_lt`, `Chip8.Progress.noticesOf_total` — the notices within a loop
  and those of all of it.
* `Chip8.Progress.keepsAccount_of_pos` — how every loop and its bar go together.
* `Chip8.Progress.reported_of_reportable` — a report that can be made does not change the result.
* `Chip8.Progress.reports` — the guarantees hold of every loop.
-/

namespace Chip8

/-- What a loop tells its progress bar. -/
inductive Notice where
  /-- The bar is opened. -/
  | opening
  /-- The bar moves on by a number of steps. -/
  | advance (steps : ℤ)
  /-- The bar is closed. -/
  | closing
  deriving DecidableEq, Repr

namespace Progress

/-! ## Notices -/

section

variable {α σ : Type} (p : Progress α)

/-- What a notice makes of a bar. As long as there is none it cannot be moved or closed. -/
def hear (bar? : Option (Bar α)) : Notice → Option (Bar α)
  | .opening => some p.opened
  | .advance steps => bar?.map fun bar => bar.update steps
  | .closing => bar?.map Bar.close

/-- What the bar is told before the work of an iteration. -/
def noticesBefore (i : ℕ) : List Notice :=
  (if i = 0 then [.opening] else []) ++
    (if (i + 1 : ℤ) % p.chunk = 0 then [.advance p.chunk] else []) ++
    if p.total % p.chunk ≠ 0 ∧ (i + 1 : ℤ) = p.total then [.advance (p.total % p.chunk)] else []

/-- What the bar is told after the work of an iteration. -/
def noticesAfter (i : ℕ) : List Notice :=
  if (i : ℤ) = p.total - 1 then [.closing] else []

/-- What the bar is told by the first iterations of a loop. -/
def noticesOf (k : ℕ) : List Notice :=
  (List.range k).flatMap fun i => p.noticesBefore i ++ p.noticesAfter i

lemma noticesOf_succ (k : ℕ) :
    p.noticesOf (k + 1) = p.noticesOf k ++ (p.noticesBefore k ++ p.noticesAfter k) := by
  rw [noticesOf, List.range_succ, List.flatMap_append, List.flatMap_singleton]
  rfl

lemma before_eq (i : ℕ) (bar? : Option (Bar α)) :
    p.before i bar? = (p.noticesBefore i).foldl p.hear bar? := by
  unfold before noticesBefore
  dsimp only
  split_ifs <;> rfl

lemma after_eq (i : ℕ) (bar? : Option (Bar α)) :
    p.after i bar? = (p.noticesAfter i).foldl p.hear bar? := by
  unfold after noticesAfter
  split_ifs <;> rfl

/-- **A bar is what the notices make of it.** -/
theorem snd_scanFirst (work : ℕ → σ → σ) (start : σ) (k : ℕ) :
    (p.scanFirst work start k).2 = (p.noticesOf k).foldl p.hear none := by
  induction k with
  | zero => rfl
  | succ k ih =>
    rw [noticesOf_succ, List.foldl_append, List.foldl_append, ← ih, ← before_eq, ← after_eq,
      scanFirst, Nat.fold_succ]
    rfl

/-- Steps add to the updates of a bar. -/
lemma foldl_hear_advance (bar : Bar α) (steps : List ℤ) :
    (steps.map Notice.advance).foldl p.hear (some bar) =
      some { bar with updates := bar.updates ++ steps.toArray } := by
  induction steps generalizing bar with
  | nil => simp
  | cons step steps ih =>
    rw [List.map_cons, List.foldl_cons, hear, Option.map_some, ih]
    simp [Bar.update]

end

/-! ## Chunks -/

/-- The steps by which a bar is moved on in all: chunks of one size, and what is left. -/
def chunks (n size : ℕ) : List ℤ :=
  List.replicate (n / size) (size : ℤ) ++ if n % size = 0 then [] else [((n % size : ℕ) : ℤ)]

section

variable {n size : ℕ}

lemma sum_chunks (n size : ℕ) : (chunks n size).sum = n := by
  have hparts : ((n / size : ℕ) : ℤ) * size + (n % size : ℕ) = n := by
    exact_mod_cast Nat.div_add_mod' n size
  rw [chunks, List.sum_append, List.sum_replicate, nsmul_eq_mul]
  split
  case isTrue h =>
    rw [h] at hparts
    simpa using hparts
  case isFalse => simpa using hparts

/-- There are as many steps as the quotient, rounded up. -/
lemma length_chunks (hsize : 0 < size) : (chunks n size).length = (n + size - 1) / size := by
  have hn := Nat.div_add_mod n size
  have hlt := Nat.mod_lt n hsize
  have hshift : n + size - 1 = n % size + size - 1 + size * (n / size) := by omega
  rw [chunks, List.length_append, List.length_replicate, hshift,
    Nat.add_mul_div_left _ _ hsize, Nat.add_comm]
  congr 1
  split
  case isTrue h => rw [h, Nat.zero_add, Nat.div_eq_of_lt (by omega), List.length_nil]
  case isFalse h =>
    rw [List.length_singleton]
    exact (Nat.div_eq_of_lt_le (by omega) (by omega)).symm

/-- All steps but the last are whole chunks. -/
lemma eq_of_mem_dropLast_chunks {step : ℤ} (h : step ∈ (chunks n size).dropLast) :
    step = size := by
  rw [chunks] at h
  split at h
  · rw [List.append_nil] at h
    exact List.eq_of_mem_replicate (List.mem_of_mem_dropLast h)
  · rw [List.dropLast_concat] at h
    exact List.eq_of_mem_replicate h

end

/-! ## Notices of a loop -/

section

variable {α : Type} {p : Progress α} {n size : ℕ} (htotal : p.total = n) (hchunk : p.chunk = size)

/-- What a bar has been told before an iteration that is not the last one, and what is due when the
iteration has opened it and moved it on by a chunk. -/
def told (size k : ℕ) : List Notice :=
  (if k = 0 then [] else [.opening]) ++ List.replicate (k / size) (.advance size)

/-- An iteration opens the bar if it is the first one, and moves it on if it completes a chunk. -/
lemma told_succ (size k : ℕ) :
    told size k ++ ((if k = 0 then [.opening] else []) ++
      if size ∣ k + 1 then [.advance size] else []) = told size (k + 1) := by
  have hopened : told size (k + 1) = .opening :: List.replicate ((k + 1) / size) (.advance size) :=
    rfl
  have hchunk : (if size ∣ k + 1 then [Notice.advance size] else []) =
      List.replicate (if size ∣ k + 1 then 1 else 0) (.advance size) := by
    split <;> rfl
  rw [hopened, Nat.succ_div, List.replicate_add, hchunk, told]
  by_cases hk : k = 0 <;> simp [hk]

include htotal hchunk

lemma noticesBefore_eq (k : ℕ) :
    p.noticesBefore k = ((if k = 0 then [.opening] else []) ++
      if size ∣ k + 1 then [.advance size] else []) ++
        if n % size ≠ 0 ∧ k + 1 = n then [.advance (n % size : ℕ)] else [] := by
  have hdone : (k + 1 : ℤ) % p.chunk = 0 ↔ size ∣ k + 1 := by
    rw [hchunk, Nat.dvd_iff_mod_eq_zero]
    exact_mod_cast Iff.rfl
  have hleft : (p.total % p.chunk ≠ 0 ∧ (k + 1 : ℤ) = p.total) ↔ n % size ≠ 0 ∧ k + 1 = n := by
    rw [htotal, hchunk]
    exact_mod_cast Iff.rfl
  rw [noticesBefore]
  simp only [hdone, hleft]
  rw [hchunk, htotal, Int.natCast_mod]

/-- Within a loop its bar has been opened and told of every chunk that is done. -/
lemma noticesOf_eq_of_lt {k : ℕ} (hk : k < n) : p.noticesOf k = told size k := by
  induction k with
  | zero => simp [noticesOf, told]
  | succ k ih =>
    have hafter : p.noticesAfter k = [] := by
      rw [noticesAfter, htotal, if_neg (by omega)]
    have hrest : ¬(n % size ≠ 0 ∧ k + 1 = n) := fun h => by omega
    rw [noticesOf_succ, ih (by omega), noticesBefore_eq htotal hchunk, if_neg hrest, hafter,
      List.append_nil, List.append_nil, told_succ]

/-- **All that a loop tells its bar**: one opening, the chunks and what is left, and one closing. -/
theorem noticesOf_total (hn : 0 < n) :
    p.noticesOf n = .opening :: ((chunks n size).map Notice.advance ++ [.closing]) := by
  obtain ⟨m, rfl⟩ : ∃ m, n = m + 1 := ⟨n - 1, by omega⟩
  have hafter : p.noticesAfter m = [.closing] := by
    rw [noticesAfter, htotal, if_pos (by omega)]
  rw [noticesOf_succ, noticesOf_eq_of_lt htotal hchunk (by omega),
    noticesBefore_eq htotal hchunk, hafter, ← List.append_assoc, ← List.append_assoc, told_succ,
    chunks, told]
  by_cases hrest : (m + 1) % size = 0 <;> simp [hrest]

end

/-! ## The bar of a loop -/

section

variable {α σ : Type} {p : Progress α} {n size : ℕ} (work : ℕ → σ → σ) (start : σ)

/-- A bar that is opened and moved on. -/
lemma foldl_hear_opening (p : Progress α) (steps : List ℤ) :
    (Notice.opening :: steps.map Notice.advance).foldl p.hear none =
      some { p.opened with updates := steps.toArray } := by
  rw [List.foldl_cons, hear, foldl_hear_advance]
  simp [opened]

/-- After some of the iterations the bar is open, and was moved on for every chunk that is done. -/
lemma snd_scanFirst_of_lt (htotal : p.total = n) (hchunk : p.chunk = size) {k : ℕ} (hk : 0 < k)
    (hkn : k < n) : (p.scanFirst work start k).2 =
      some { p.opened with updates := (List.replicate (k / size) (size : ℤ)).toArray } := by
  rw [snd_scanFirst, noticesOf_eq_of_lt htotal hchunk hkn, told, if_neg hk.ne',
    ← List.map_replicate]
  exact foldl_hear_opening p _

/-- After all of them it was moved on to the total, and is closed. -/
lemma snd_scanFirst_total (htotal : p.total = n) (hchunk : p.chunk = size) (hn : 0 < n) :
    (p.scanFirst work start n).2 =
      some { p.opened with updates := (chunks n size).toArray, closed := true } := by
  rw [snd_scanFirst, noticesOf_total htotal hchunk hn, ← List.cons_append, List.foldl_append,
    foldl_hear_opening]
  rfl

/-- A bar never runs ahead of the iterations that are done. -/
lemma sum_updates_le (htotal : p.total = n) (hchunk : p.chunk = size) {k : ℕ} (hkn : k ≤ n)
    {bar : Bar α} (hbar : (p.scanFirst work start k).2 = some bar) :
    bar.total = n ∧ bar.updates.toList.sum ≤ k := by
  rcases Nat.eq_zero_or_pos k with rfl | hk
  · cases hbar
  rcases hkn.lt_or_eq with hlt | rfl
  · rw [snd_scanFirst_of_lt work start htotal hchunk hk hlt] at hbar
    obtain rfl := Option.some.inj hbar
    refine ⟨htotal, ?_⟩
    show (List.replicate (k / size) (size : ℤ)).sum ≤ k
    rw [List.sum_replicate, nsmul_eq_mul]
    exact_mod_cast Nat.div_mul_le_self k size
  · rw [snd_scanFirst_total work start htotal hchunk hk] at hbar
    obtain rfl := Option.some.inj hbar
    exact ⟨htotal, (sum_chunks k size).le⟩

/-- How a loop and its bar go together. -/
structure KeepsAccount (p : Progress α) (work : ℕ → σ → σ) (start : σ) : Prop where
  /-- The loop computes what it computes without a bar. -/
  result : (p.scan work start).1 = p.total.toNat.fold (fun i _ s => work i s) start
  /-- A loop without iterations says nothing and opens no bar. -/
  silent : p.total ≤ 0 → p.noticesOf p.total.toNat = [] ∧ (p.scan work start).2 = none
  /-- Any other loop opens one bar, moves it on step by step, and closes it at the end. -/
  notices : 0 < p.total → p.noticesOf p.total.toNat =
    .opening :: ((chunks p.total.toNat p.chunk.toNat).map Notice.advance ++ [.closing])
  /-- After some of the iterations the bar is open, and was moved on for every chunk that is done.
  -/
  within : ∀ k : ℕ, 0 < k → k < p.total → (p.scanFirst work start k).2 =
    some { p.opened with updates := (List.replicate (k / p.chunk.toNat) p.chunk).toArray }
  /-- After all of them it was moved on to the total, and is closed. -/
  finished : 0 < p.total → (p.scan work start).2 =
    some { p.opened with
      updates := (chunks p.total.toNat p.chunk.toNat).toArray
      closed := true }
  /-- It never runs ahead of the iterations that are done. -/
  behind : ∀ k : ℕ, k ≤ p.total → ∀ bar, (p.scanFirst work start k).2 = some bar →
    bar.total = p.total ∧ bar.updates.toList.sum ≤ k
  /-- There are as many steps as chunks in the total, a part of one included. -/
  length : 0 < p.total → ((chunks p.total.toNat p.chunk.toNat).length : ℤ) =
    (p.total + p.chunk - 1) / p.chunk
  /-- All steps but the last are whole chunks. -/
  whole : ∀ step ∈ (chunks p.total.toNat p.chunk.toNat).dropLast, step = p.chunk
  /-- The steps add up to the total. -/
  sum : 0 < p.total → (chunks p.total.toNat p.chunk.toNat).sum = p.total

/-- **A loop and its bar go together** as long as a chunk is at least one iteration.

**Proof sketch.** The bar is what the notices of the iterations make of it, and these are known both
within the loop and at its end. What is done of the total is made of whole chunks and a part of one,
and the bar is told of the whole ones. -/
theorem keepsAccount_of_pos (hpos : 0 < p.chunk) : p.KeepsAccount work start := by
  obtain ⟨size, hchunk⟩ : ∃ size : ℕ, p.chunk = size := ⟨p.chunk.toNat, by omega⟩
  have hsize : p.chunk.toNat = size := by omega
  have htotal : 0 ≤ p.total → p.total = p.total.toNat := by omega
  constructor
  case result => exact fst_scanFirst p work start _
  case silent =>
    intro hnone
    have hzero : p.total.toNat = 0 := by omega
    rw [scan, hzero]
    exact ⟨rfl, rfl⟩
  case notices =>
    intro hsome
    rw [hsize]
    exact noticesOf_total (htotal hsome.le) hchunk (by omega)
  case within =>
    intro k hk hkn
    rw [hsize, hchunk]
    exact snd_scanFirst_of_lt work start (htotal (by omega)) hchunk hk (by omega)
  case finished =>
    intro hsome
    rw [hsize]
    exact snd_scanFirst_total work start (htotal hsome.le) hchunk (by omega)
  case behind =>
    intro k hkn bar hbar
    rw [htotal (by omega)]
    exact sum_updates_le work start (htotal (by omega)) hchunk (by omega) hbar
  case length =>
    intro hsome
    have hnatural : p.total + p.chunk - 1 = ((p.total.toNat + size - 1 : ℕ) : ℤ) := by omega
    rw [hsize, length_chunks (by omega), hnatural, hchunk]
    exact Int.natCast_div _ _
  case whole =>
    intro step hstep
    rw [hsize] at hstep
    rw [hchunk]
    exact eq_of_mem_dropLast_chunks hstep
  case sum =>
    intro hsome
    rw [sum_chunks]
    exact (htotal hsome.le).symm

/-- A chunk of a plan is at least one iteration. -/
lemma chunk_plan_pos (total : ℤ) (rate? : Option ℤ) (description? : Option String)
    (options : List (String × α)) : 0 < (plan total rate? description? options).chunk := by
  show 0 < chunkSize total rate?
  cases rate? <;> rw [chunkSize] <;> omega

end

/-! ## Loops on a host -/

section

variable {α σ : Type} {host : Host}

/-- A loop without a report, if it can be laid out. -/
def counted (host : Host) (total : ℤ) (work : ℕ → σ → σ) (start : σ) : Except Error σ :=
  match host.loopHindrance? total with
  | some error => .error error
  | none => .ok (total.toNat.fold (fun i _ s => work i s) start)

/-- A loop with a report, if the bar can be had and the loop can be gone through with it. -/
def reported (host : Host) (total : ℤ) (rate? : Option ℤ) (description? : Option String)
    (work : ℕ → σ → σ) (start : σ) : Except Error (σ × Option (Bar α)) := do
  let plan ← request total rate? description? []
  plan.perform host none work start

variable {total : ℤ} {rate? : Option ℤ} {description? : Option String}

/-- What keeps a loop from being gone through with a report that can be made keeps it from being
laid out. -/
lemma hindrance?_of_reportable
    (h : (plan total rate? description? ([] : List (String × α))).Reportable) :
    (plan total rate? description? ([] : List (String × α))).hindrance? host none =
      host.loopHindrance? total := by
  obtain ⟨hopening, hclosing⟩ := reportable_iff.mp h
  rw [hindrance?, hopening, hclosing, barHindrance?_plan]
  show (host.loopHindrance? total <|> none) = _
  cases host.loopHindrance? total <;> rfl

/-- The numbers of iterations that are compared in a report can also be told. -/
lemma request_of_reportable
    (h : (plan total rate? description? ([] : List (String × α))).Reportable) :
    request total rate? description? ([] : List (String × α)) =
      .ok (plan total rate? description? []) := by
  have hwritable : Decimal.isWritable total = true := by
    rcases reportable_plan_iff.mp h with ⟨hbelow, habove⟩ | ⟨rfl, -⟩
    · exact Machine.isWritable_of_lt hbelow habove
    · decide +kernel
  rw [request, hwritable, Bool.not_true, Bool.and_false]
  rfl

/-- **A report that can be made changes nothing about the result** of a loop, nor about what keeps
it from being laid out. -/
theorem reported_of_reportable
    (h : (plan total rate? description? ([] : List (String × α))).Reportable)
    (work : ℕ → σ → σ) (start : σ) :
    reported host total rate? description? work start =
      (counted host total work start).map fun result =>
        (result, ((plan total rate? description? ([] : List (String × α))).scan work start).2) := by
  rw [reported, request_of_reportable h, ok_bind, perform, hindrance?_of_reportable h, counted]
  cases host.loopHindrance? total with
  | some error => rfl
  | none => exact congrArg Except.ok (Prod.ext (fst_scanFirst _ work start _) rfl)

/-- A report that cannot be made is refused. -/
lemma exists_error_reported
    (h : ¬(plan total rate? description? ([] : List (String × α))).Reportable)
    (work : ℕ → σ → σ) (start : σ) :
    ∃ error, (reported host total rate? description? work start :
      Except Error (σ × Option (Bar α))) = .error error := by
  rw [reported]
  cases hrequest : request total rate? description? ([] : List (String × α)) with
  | error cause => exact ⟨cause, rfl⟩
  | ok p =>
    obtain rfl := of_request_eq_ok hrequest
    rw [ok_bind, perform]
    split
    case h_1 error _ => exact ⟨error, rfl⟩
    case h_2 hnone => exact absurd (hindrance?_eq_none_iff.mp hnone).1 h

/-- What a loop with a report guarantees on a host, for a total and a rate. -/
structure Reports (host : Host) (α : Type) (total : ℤ) (rate? : Option ℤ)
    (description? : Option String) (work : ℕ → σ → σ) (start : σ) : Prop where
  /-- A chunk is the rate asked for or else a twentieth of the total and at most a thousand, but no
  more than the total and at least one. -/
  size : (plan total rate? description? ([] : List (String × α))).chunk =
    match rate? with
    | some rate => max 1 (min rate total)
    | none => max 1 (min (total / 20) 1000)
  /-- Without a report the loop computes its result, as far as its iterations are words. -/
  computed : host.CountsWords → total < 0x80000000 →
    counted host total work start = .ok (total.toNat.fold (fun i _ s => work i s) start)
  /-- As far as they are words from either end, a report can be made. It can be made on one more
  total, in chunks that are words. -/
  reportable : (plan total rate? description? ([] : List (String × α))).Reportable ↔
    -0x80000000 < total ∧ total < 0x80000000 ∨
      total = 0x80000000 ∧ chunkSize total rate? < 0x80000000 ∧ total % chunkSize total rate? = 0
  /-- A report that can be made changes nothing about the result. -/
  accepted : (plan total rate? description? ([] : List (String × α))).Reportable →
    reported host total rate? description? work start =
      (counted host total work start).map fun result =>
        (result, ((plan total rate? description? ([] : List (String × α))).scan work start).2)
  /-- Otherwise the loop is refused. -/
  refused : ¬(plan total rate? description? ([] : List (String × α))).Reportable →
    ∃ error, (reported host total rate? description? work start :
      Except Error (σ × Option (Bar α))) = .error error
  /-- The bar keeps account of the iterations. -/
  account : (plan total rate? description? ([] : List (String × α))).KeepsAccount work start

/-- **Every loop keeps account of its iterations**, whatever its total and its rate. -/
theorem reports (host : Host) (α : Type) (total : ℤ) (rate? : Option ℤ)
    (description? : Option String) (work : ℕ → σ → σ) (start : σ) :
    Reports host α total rate? description? work start where
  size := by cases rate? <;> rfl
  computed hhost htotal := by rw [counted, hhost total htotal]
  reportable := reportable_plan_iff
  accepted h := reported_of_reportable h work start
  refused h := exists_error_reported h work start
  account := keepsAccount_of_pos work start (chunk_plan_pos total rate? description? [])

/-- Ten iterations in chunks of three. -/
example : (plan 10 (some 3) none ([] : List (String × Unit))).scan (fun i sum => sum + i) 0 =
    (45, some ⟨10, "Emulating (10 cycles)", "cycle", [], #[3, 3, 3, 1], true⟩) := by
  decide +kernel

/-- A loop whose total is far below zero has no iterations and ends as it starts, but with a report
it is refused. -/
theorem exists_refused_report :
    counted .standard (-0x80000000) (fun i sum => sum + i) 0 = .ok 0 ∧
      ∀ result : ℕ × Option (Bar Empty),
        reported .standard (-0x80000000) none none (fun i sum => sum + i) 0 ≠ .ok result := by
  refine ⟨rfl, fun result hresult => ?_⟩
  have hrefused : ∃ error, (reported .standard (-0x80000000) none none (fun i sum => sum + i) 0 :
      Except Error (ℕ × Option (Bar Empty))) = .error error :=
    exists_error_reported (by decide) (fun i sum => sum + i) 0
  obtain ⟨error, herror⟩ := hrefused
  rw [hresult] at herror
  cases herror

end

end Progress

end Chip8
