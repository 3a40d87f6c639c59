import Chip8.Headless
import Chip8.Proofs.Cycle

set_option autoImplicit false

/-!
# Runs of a machine

What the surroundings of a machine ask of it, one thing after the other: single actions, which are
cycles, periods of the timers and changes of the keys, and longer operations made of many cycles. A
request that is refused leaves the machine as it was.

A property that every action keeps is kept by every run, and by every longer operation as well,
since these are made of cycles and periods of the timers.

## Main definitions

* `Chip8.Action`, `Chip8.Machine.act` — single actions, and what they leave of a machine.
* `Chip8.Machine.after` — a machine after a list of actions.
* `Chip8.Operation`, `Chip8.Machine.afterAll` — actions and longer operations, and a machine after a
  list of them.
* `Chip8.Machine.Lasting` — a property that every action keeps.

## Main results

* `Chip8.Machine.Lasting.after`, `Chip8.Machine.Lasting.afterAll` — a lasting property that holds at
  the beginning of a run holds at its end.
* `Chip8.Progress.fst_scanFirst` — a progress bar does not change what a loop computes.
-/

namespace Chip8

/-! ## Actions -/

/-- What the surroundings of a machine ask of it. Keys are given by numbers and key states in any
arrangement, as the surroundings have them. -/
inductive Action where
  /-- One cycle. -/
  | step
  /-- One period of the timers. -/
  | decrementTimers
  /-- A key goes down. -/
  | press (key : ℤ)
  /-- A key goes up. -/
  | release (key : ℤ)
  /-- The states of all keys are replaced. -/
  | setKeypad (states : KeyStates)

namespace Machine

/-- What an action makes of a machine. A number that is no key, and key states that are no row of
sixteen, are refused. -/
def perform (s : Machine) : Action → Except Error Machine
  | .step => .ok s.step
  | .decrementTimers => .ok s.decrementTimers
  | .press key => (Key.ofInt key).map s.press
  | .release key => (Key.ofInt key).map s.release
  | .setKeypad states => states.keypad.map s.setKeypad

/-- The machine that a request yields, or the machine before it if the request is refused. -/
def settle (s : Machine) : Except Error Machine → Machine
  | .ok s' => s'
  | .error _ => s

/-- The machine after an action. -/
def act (s : Machine) (action : Action) : Machine :=
  s.settle (s.perform action)

/-- Only a cycle touches more of a machine than its timers, its keys and the latch. -/
lemma act_eq_of_ne_step (s : Machine) {action : Action} (h : action ≠ .step) :
    s.act action = { s with
      delayTimer := (s.act action).delayTimer
      soundTimer := (s.act action).soundTimer
      keypad := (s.act action).keypad
      lastKey := (s.act action).lastKey } := by
  cases action with
  | step => exact absurd rfl h
  | decrementTimers => rfl
  | press key => cases hk : Key.ofInt key <;> simp only [act, perform, hk] <;> rfl
  | release key => cases hk : Key.ofInt key <;> simp only [act, perform, hk] <;> rfl
  | setKeypad states => cases hp : states.keypad <;> simp only [act, perform, hp] <;> rfl

/-- The machine after a list of actions. -/
def after (s : Machine) (actions : List Action) : Machine :=
  actions.foldl act s

@[simp] lemma after_nil (s : Machine) : s.after [] = s := rfl

@[simp] lemma after_cons (s : Machine) (action : Action) (actions : List Action) :
    s.after (action :: actions) = (s.act action).after actions := rfl

/-- A run is continued where it ended. -/
lemma after_append (s : Machine) (first second : List Action) :
    s.after (first ++ second) = (s.after first).after second := by
  rw [after, List.foldl_append]
  rfl

/-- A run that goes on by one action. -/
lemma after_concat (s : Machine) (actions : List Action) (action : Action) :
    s.after (actions ++ [action]) = (s.after actions).act action := by
  rw [after_append]
  rfl

/-! ## Operations -/

end Machine

/-- What the surroundings of a machine ask of it, longer operations included. -/
inductive Operation where
  /-- A single action. -/
  | act (action : Action)
  /-- A number of cycles. -/
  | runSteps (n : ℕ)
  /-- A number of frames without a screen, with or without a progress bar. -/
  | runHeadless (frames perFrame : ℤ) (showsProgress : Bool)

namespace Machine

/-- What an operation makes of a machine on a host. Frames whose cycles cannot be counted are
refused. -/
def operate (host : Host) (s : Machine) : Operation → Except Error Machine
  | .act action => s.perform action
  | .runSteps n => .ok (s.runSteps n)
  | .runHeadless frames perFrame showsProgress => s.ranHeadless host showsProgress frames perFrame

/-- The machine after a list of operations. -/
def afterAll (host : Host) (s : Machine) (operations : List Operation) : Machine :=
  operations.foldl (fun s operation => s.settle (s.operate host operation)) s

/-- A program that fits is loaded. -/
lemma loadRom_eq_ok (s : Machine) {rom : List UInt8} (h : rom.length ≤ romCapacity) :
    s.loadRom rom = .ok { s with memory := s.memory.writeBytes programStart rom } := by
  rw [loadRom, if_pos h]

/-- A machine that is loaded with a program has not stopped and does not wait. -/
lemma of_boot {seed : ℤ} {rom : List UInt8} {s : Machine} (h : boot seed rom = .ok s) :
    s.fault = none ∧ s.awaitingKey = false := by
  unfold boot loadRom at h
  split at h
  · split at h
    · cases h
      exact ⟨rfl, rfl⟩
    · cases h
  · cases h

/-! ## Loops -/

end Machine

/-- A property that every iteration of a counted loop keeps is kept by the loop. -/
lemma fold_keeps {σ : Type} {P : σ → Prop} {f : ℕ → σ → σ} (hf : ∀ i s, P s → P (f i s)) {s : σ}
    (hs : P s) (n : ℕ) : P (n.fold (fun i _ s => f i s) s) := by
  induction n with
  | zero => exact hs
  | succ n ih =>
    rw [Nat.fold_succ]
    exact hf n _ ih

/-- A property that a function keeps is kept by its repetition. -/
lemma repeat_keeps {σ : Type} {P : σ → Prop} {f : σ → σ} (hf : ∀ s, P s → P (f s)) {s : σ}
    (hs : P s) (n : ℕ) : P (n.repeat f s) := by
  induction n with
  | zero => exact hs
  | succ n ih => exact hf _ ih

/-- The first of several repetitions. -/
lemma repeat_succ {σ : Type} (f : σ → σ) (n : ℕ) (s : σ) :
    (n + 1).repeat f s = n.repeat f (f s) := by
  induction n with
  | zero => rfl
  | succ n ih => exact congrArg f ih

/-- Repetitions are continued where they ended. -/
lemma repeat_add {σ : Type} (f : σ → σ) (m n : ℕ) (s : σ) :
    (m + n).repeat f s = n.repeat f (m.repeat f s) := by
  induction n with
  | zero => rfl
  | succ n ih => exact congrArg f ih

namespace Progress

variable {α σ : Type}

/-- A progress bar does not change what the first iterations of a loop compute. -/
theorem fst_scanFirst (p : Progress α) (work : ℕ → σ → σ) (start : σ)
    (n : ℕ) : (p.scanFirst work start n).1 = n.fold (fun i _ s => work i s) start := by
  induction n with
  | zero => rfl
  | succ n ih =>
    rw [Nat.fold_succ, ← ih, scanFirst, Nat.fold_succ]
    rfl

/-- A loop with a report that is not refused computes what it computes without a bar. -/
lemma fst_perform {host : Host} {p : Progress α} {overflow : Option Overflow} {work : ℕ → σ → σ}
    {start : σ} {result : σ × Option (Bar α)}
    (h : p.perform host overflow work start = .ok result) :
    result.1 = p.total.toNat.fold (fun i _ s => work i s) start := by
  unfold perform at h
  split at h
  · cases h
  · rw [← Except.ok.inj h, scan, fst_scanFirst]

/-- A request that is not refused yields the plan for the iterations it was asked for. -/
lemma of_request_eq_ok {total : ℤ} {rate? : Option ℤ} {description? : Option String}
    {options : List (String × α)} {p : Progress α}
    (h : request total rate? description? options = .ok p) :
    p = plan total rate? description? options := by
  unfold request at h
  generalize hwritten : (description?.isNone && !Decimal.isWritable total) = written at h
  cases hfound : (options.map Prod.fst).find? placed.contains with
  | some name => rw [hfound] at h; cases h
  | none =>
    rw [hfound] at h
    cases written with
    | true => cases h
    | false => exact (Except.ok.inj h).symm

end Progress

namespace Machine

/-- A run without a screen that is not refused goes through all its frames, with a progress bar as
without. -/
lemma eq_runHeadless_of_ranHeadless {host : Host} {showsProgress : Bool} {s s' : Machine}
    {frames perFrame : ℤ} (h : s.ranHeadless host showsProgress frames perFrame = .ok s') :
    s' = s.runHeadless frames perFrame := by
  cases showsProgress with
  | false =>
    have hflat : s.headless host frames perFrame = .ok s' := h
    unfold headless at hflat
    split at hflat
    · cases hflat
    · exact (Except.ok.inj hflat).symm
  | true =>
    rw [ranHeadless, if_pos rfl, map_eq_ok_iff] at h
    obtain ⟨result, hresult, rfl⟩ := h
    obtain ⟨plan, hplan, hperform⟩ := bind_eq_ok_iff.mp hresult
    rw [Progress.fst_perform hperform, Progress.of_request_eq_ok hplan]
    rfl

/-! ## What longer operations keep -/

/-- A refused request keeps every property, and any other keeps those of what it yields. -/
lemma settle_keeps {P : Machine → Prop} {s : Machine} (hs : P s) {request : Except Error Machine}
    (h : ∀ s', request = .ok s' → P s') : P (s.settle request) := by
  cases request with
  | ok s' => exact h s' rfl
  | error _ => exact hs

section

variable {P : Machine → Prop} (hstep : ∀ s, P s → P s.step)
  (htimers : ∀ s, P s → P s.decrementTimers)

include hstep htimers

/-- Frames without a screen keep what cycles and periods of the timers keep: they are made of
these. -/
lemma runHeadless_keeps {s : Machine} (hs : P s) (frames perFrame : ℤ) :
    P (s.runHeadless frames perFrame) := by
  refine fold_keeps (fun i s hs => ?_) hs _
  unfold headlessCycle
  split
  · exact htimers _ (hstep s hs)
  · exact hstep s hs

/-- An operation that is no single action keeps what cycles and periods of the timers keep. -/
lemma operate_keeps {host : Host} {s : Machine} (hs : P s) {operation : Operation}
    (hact : ∀ action, operation = .act action → P (s.act action)) :
    P (s.settle (s.operate host operation)) := by
  cases operation with
  | act action => exact hact action rfl
  | runSteps n => exact repeat_keeps hstep hs n
  | runHeadless frames perFrame showsProgress =>
    refine settle_keeps hs fun s' h => ?_
    rw [eq_runHeadless_of_ranHeadless h]
    exact runHeadless_keeps hstep htimers hs frames perFrame

end

/-! ## Lasting properties -/

/-- A property that every action keeps. -/
structure Lasting (P : Machine → Prop) : Prop where
  /-- A cycle keeps it. -/
  step : ∀ s, P s → P s.step
  /-- A period of the timers keeps it. -/
  decrementTimers : ∀ s, P s → P s.decrementTimers
  /-- A key going down keeps it. -/
  press : ∀ s key, P s → P (s.press key)
  /-- A key going up keeps it. -/
  release : ∀ s key, P s → P (s.release key)
  /-- New states of all keys keep it. -/
  setKeypad : ∀ s pad, P s → P (s.setKeypad pad)

namespace Lasting

variable {P : Machine → Prop}

/-- A request for which something has to be found first. -/
lemma settle_map {α : Type} {s : Machine} (hs : P s) (found : Except Error α) {f : α → Machine}
    (hf : ∀ a, P (f a)) : P (s.settle (found.map f)) := by
  cases found with
  | ok a => exact hf a
  | error _ => exact hs

/-- One action keeps a lasting property. -/
lemma act (hP : Lasting P) {s : Machine} (hs : P s) (action : Action) : P (s.act action) := by
  cases action with
  | step => exact hP.step s hs
  | decrementTimers => exact hP.decrementTimers s hs
  | press key => exact settle_map hs (Key.ofInt key) fun k => hP.press s k hs
  | release key => exact settle_map hs (Key.ofInt key) fun k => hP.release s k hs
  | setKeypad states => exact settle_map hs states.keypad fun pad => hP.setKeypad s pad hs

/-- A run keeps a lasting property. -/
theorem after (hP : Lasting P) {s : Machine} (hs : P s) (actions : List Action) :
    P (s.after actions) := by
  induction actions generalizing s with
  | nil => exact hs
  | cons action actions ih => exact ih (hP.act hs action)

/-- An operation keeps a lasting property. -/
lemma operate (hP : Lasting P) (host : Host) {s : Machine} (hs : P s) (operation : Operation) :
    P (s.settle (s.operate host operation)) :=
  operate_keeps hP.step hP.decrementTimers hs fun action _ => hP.act hs action

/-- A run of operations keeps a lasting property. -/
theorem afterAll (hP : Lasting P) (host : Host) {s : Machine} (hs : P s)
    (operations : List Operation) : P (s.afterAll host operations) := by
  induction operations generalizing s with
  | nil => exact hs
  | cons operation operations ih => exact ih (hP.operate host hs operation)

end Lasting

end Machine

end Chip8
