import Chip8.Proofs.Successor
import Chip8.Proofs.Waiting

set_option autoImplicit false

/-!
# Held keys and what was asked of them

Which keys a machine holds, and which key it has latched, is decided by the actions of its run. A
key is held if the last action that concerned it pressed it; a press and a release concern one key,
new states of all keys concern every one. The latch follows another rule: it holds the key pressed
last since the program last waited for one, whatever has become of the key meanwhile. What is
refused concerns no key.

## Main definitions

* `Chip8.Action.complaint?` — the error that an action is refused with.
* `Chip8.Action.setting?`, `Chip8.keySettings` — the state that an action gives to a key, and the
  states that a run gives to it.
* `Chip8.Machine.SinceWait` — what came after the last wait of a run.
* `Chip8.Machine.FollowsHistory` — what a run decides about keys.

## Main results

* `Chip8.Machine.apply_after_eq_getLast?` — what a machine holds is what was last put into it.
* `Chip8.Machine.held_after` — which keys a machine holds after a run.
* `Chip8.Machine.lastKey_after` — which key it has latched after a run that does not wait.
* `Chip8.Machine.followsHistory_of_run` — what runs decide about keys, from every new machine.
-/

namespace Chip8

/-! ## States of keys -/

namespace KeyStates

/-- The state at a place of a row. -/
def stateAt? : KeyStates → ℕ → Option Bool
  | .state _, _ => none
  | .row parts, n => parts[n]?.map isHeld

/-- An arrangement without extents is a single state, so that single states have none in common. -/
lemma extentsOfAll_eq_nil {parts : List KeyStates} (h : parts.all (hasExtents []) = true) :
    extentsOfAll parts = [] := by
  cases parts with
  | nil => rfl
  | cons part parts =>
    have hpart : part.extents = [] := by
      cases part with
      | state held => rfl
      | row _ => exact absurd h (by simp [hasExtents])
    cases parts with
    | nil => exact hpart
    | cons next parts => rw [extentsOfAll, hpart, common] <;> simp

/-- A row of sixteen states has the one extent sixteen. -/
lemma extents_of_hasExtents {states : KeyStates} (h : states.hasExtents [16] = true) :
    states.extents = [16] ∧ states.misfit? = none := by
  cases states with
  | state held => cases h
  | row parts =>
    obtain ⟨hlength, hparts⟩ := Bool.and_eq_true_iff.mp h
    have hextents : (row parts).extents = [16] := by
      rw [extents, extentsOfAll_eq_nil hparts, beq_iff_eq.mp hlength]
    refine ⟨hextents, ?_⟩
    rw [misfit?, hextents, h, if_pos (by decide)]

/-- One row of sixteen states is a keypad, on which every key has the state at its place. -/
lemma exists_keypad {states : KeyStates} (h : states.hasExtents [16] = true) :
    ∃ pad, states.keypad = .ok pad ∧ ∀ k : Key, states.stateAt? k.val = some (pad.held k) := by
  obtain ⟨hextents, hfits⟩ := extents_of_hasExtents h
  cases states with
  | state held => cases h
  | row parts =>
    have hlength : parts.length = 16 := beq_iff_eq.mp (Bool.and_eq_true_iff.mp h).1
    refine ⟨_, by rw [keypad, hfits, if_pos hextents], fun k => ?_⟩
    have hk : k.val < parts.length := by omega
    simp [stateAt?, Keypad.held, hk]

/-- Any other arrangement is no keypad: it is no rectangle, or has other extents. -/
lemma keypad_of_not_hasExtents {states : KeyStates} (h : ¬states.hasExtents [16] = true) :
    states.keypad = .error (states.misfit?.elim (.keypadShape states.extents) .misfit) := by
  unfold keypad
  cases hmisfit : states.misfit? with
  | some cause => rfl
  | none =>
    have hother : states.extents ≠ [16] := by
      intro hextents
      rw [misfit?, hextents, Bool.eq_false_iff.mpr h, Bool.false_and,
        if_neg Bool.false_ne_true] at hmisfit
      split_ifs at hmisfit
    cases states with
    | state held => rfl
    | row parts => exact if_neg hother

end KeyStates

/-! ## Actions and keys -/

namespace Action

/-- The error that an action is refused with, if it is: there are sixteen keys, and the states of
all of them are one row. What is no rectangle is told as such. -/
def complaint? : Action → Option Error
  | .step | .decrementTimers => none
  | .press key | .release key =>
    if 0 ≤ key ∧ key < 16 then none else some (.keyOutOfRange key)
  | .setKeypad states =>
    if states.hasExtents [16] then none
    else some (states.misfit?.elim (.keypadShape states.extents) .misfit)

/-- The state that an action gives to a key, if it concerns the key. -/
def setting? (k : Key) : Action → Option Bool
  | .step | .decrementTimers => none
  | .press key => if key = k.val then some true else none
  | .release key => if key = k.val then some false else none
  | .setKeypad states => if states.hasExtents [16] then states.stateAt? k.val else none

end Action

/-- The states that a run gives to a key, in order. -/
def keySettings (k : Key) (actions : List Action) : List Bool :=
  actions.filterMap (Action.setting? k)

namespace Machine

/-! ## Refused actions -/

/-- **An action is refused with its error**, and any other is performed. -/
theorem perform_eq (s : Machine) (action : Action) :
    s.perform action =
      match action.complaint? with
      | some error => .error error
      | none => .ok (s.act action) := by
  cases action with
  | step => rfl
  | decrementTimers => rfl
  | press key | release key =>
    by_cases h : 0 ≤ key ∧ key < 16 <;>
      simp [Action.complaint?, act, perform, Key.ofInt, h, Except.map, settle]
  | setKeypad states =>
    by_cases h : states.hasExtents [16] = true
    · obtain ⟨pad, hpad, -⟩ := KeyStates.exists_keypad h
      simp [Action.complaint?, act, perform, h, hpad, Except.map, settle]
    · simp [Action.complaint?, perform, h, KeyStates.keypad_of_not_hasExtents h, Except.map]

/-- A refused action leaves the machine as it was. -/
lemma act_of_complaint (s : Machine) {action : Action} {error : Error}
    (h : action.complaint? = some error) : s.act action = s := by
  rw [act, perform_eq, h]
  rfl

/-- A run goes as if its refused actions had not happened. -/
theorem after_filter_complaint (s : Machine) (actions : List Action) :
    s.after (actions.filter fun action => action.complaint?.isNone) = s.after actions := by
  induction actions generalizing s with
  | nil => rfl
  | cons action actions ih =>
    cases h : action.complaint? with
    | none => rw [List.filter_cons_of_pos (by rw [h]; rfl), after_cons, ih, after_cons]
    | some error =>
      rw [List.filter_cons_of_neg (by simp [h]), ih, after_cons, s.act_of_complaint h]

/-! ## What a run puts into a machine -/

/-- The cycles of a run start where those of its later actions do, too. -/
lemma mem_cycleStarts_cons {s m : Machine} {action : Action} {actions : List Action}
    (h : m ∈ (s.act action).cycleStarts actions) : m ∈ s.cycleStarts (action :: actions) := by
  cases action with
  | step => exact List.mem_cons_of_mem _ h
  | decrementTimers | press | release | setKeypad => exact h

/-- **What a machine holds in some place is what was last put there**, as long as no cycle of the
run touches it.

**Proof sketch.** By induction on the run: what the first action puts there is kept unless a later
one puts something else. -/
theorem apply_after_eq_getLast? {α : Type} {f : Machine → α} {put? : Action → Option α}
    (hstep : put? .step = none)
    (hother : ∀ s action, action ≠ .step → f (s.act action) = (put? action).getD (f s))
    {s : Machine} {actions : List Action} (hcycles : ∀ m ∈ s.cycleStarts actions, f m.step = f m) :
    f (s.after actions) = (actions.filterMap put?).getLast?.getD (f s) := by
  induction actions generalizing s with
  | nil => rfl
  | cons action actions ih =>
    have hact : f (s.act action) = (put? action).getD (f s) := by
      by_cases haction : action = .step
      · subst haction
        rw [hstep]
        exact hcycles s List.mem_cons_self
      · exact hother s action haction
    rw [after_cons, ih fun m hm => hcycles m (mem_cycleStarts_cons hm), hact]
    cases hput : put? action with
    | none =>
      rw [List.filterMap_cons_none hput]
      rfl
    | some a =>
      rw [List.filterMap_cons_some hput, List.getLast?_cons]
      rfl

/-! ## Held keys -/

/-- No cycle changes which keys are held. -/
lemma keypad_step (s : Machine) : s.step.keypad = s.keypad := by
  by_cases h : ∃ x, s.Executes (.awaitKey x)
  · -- a wait takes its key from the latch, whether the key is held or not
    obtain ⟨x, hx⟩ := h
    rw [step_of_run hx rfl, awaitKey]
    split <;> rfl
  · exact (keys_step_of_not_executes fun x hx => h ⟨x, hx⟩).2

/-- A press and a release concern the key whose number they name. -/
lemma held_settle_map (s : Machine) {f : Key → Machine} {isHeld : Bool}
    (hf : ∀ k, (f k).keypad = s.keypad.set k isHeld) (key : ℤ) (k : Key) :
    (s.settle ((Key.ofInt key).map f)).keypad.held k =
      (if key = k.val then some isHeld else none).getD (s.keypad.held k) := by
  cases hkey : Key.ofInt key with
  | error _ =>
    have hne : key ≠ k.val := by
      intro heq
      rw [Key.ofInt_eq_ok_iff.mpr heq] at hkey
      cases hkey
    rw [if_neg hne]
    rfl
  | ok other =>
    obtain rfl := Key.ofInt_eq_ok_iff.mp hkey
    show (f other).keypad.held k = _
    rw [hf, Keypad.held_set]
    by_cases h : other = k
    · rw [if_pos h, if_pos (by rw [h])]
      rfl
    · have hne : (other.val : ℤ) ≠ k.val := fun heq => h (Fin.ext (by omega))
      rw [if_neg h, if_neg hne]
      rfl

/-- An action leaves a key in the state that it gives to it, or else in the state that it was in. -/
lemma held_act (s : Machine) (action : Action) (k : Key) :
    (s.act action).keypad.held k = (action.setting? k).getD (s.keypad.held k) := by
  cases action with
  | step => exact congrArg (Keypad.held · k) s.keypad_step
  | decrementTimers => rfl
  | press key => exact s.held_settle_map (fun _ => rfl) key k
  | release key => exact s.held_settle_map (fun _ => rfl) key k
  | setKeypad states =>
    by_cases h : states.hasExtents [16] = true
    · obtain ⟨pad, hpad, hstates⟩ := KeyStates.exists_keypad h
      rw [Action.setting?, if_pos h, hstates, act, perform, hpad]
      rfl
    · rw [Action.setting?, if_neg h, act, perform, KeyStates.keypad_of_not_hasExtents h]
      rfl

/-- **A key is held after a run if the run last pressed it**, or has not concerned it and it was
held before. -/
theorem held_after (s : Machine) (actions : List Action) (k : Key) :
    (s.after actions).keypad.held k = (keySettings k actions).getLast?.getD (s.keypad.held k) :=
  apply_after_eq_getLast? (f := fun s => s.keypad.held k) rfl
    (fun s action _ => s.held_act action k) fun m _ => congrArg (Keypad.held · k) m.keypad_step

/-- The condition of a skip is on the key whose number is the low digit of its register. -/
lemma pc_step_of_skipKey {s : Machine} {x : Register} {k : Key} (h : s.Executes (.skipKey x))
    (hk : (s.reg x).toNat % 16 = k.val) :
    s.step.pc = s.pc + if s.keypad.held k = true then 4 else 2 := by
  obtain rfl : s.keyIn x = k := Fin.ext hk
  rw [step_of_run h rfl]
  exact s.pc_skipIf (s.keyHeld x)

lemma pc_step_of_skipNoKey {s : Machine} {x : Register} {k : Key}
    (h : s.Executes (.skipNoKey x)) (hk : (s.reg x).toNat % 16 = k.val) :
    s.step.pc = s.pc + if s.keypad.held k = true then 2 else 4 := by
  obtain rfl : s.keyIn x = k := Fin.ext hk
  rw [step_of_run h rfl]
  refine (s.pc_skipIf !s.keyHeld x).trans ?_
  rw [keyHeld]
  cases s.keypad.held (s.keyIn x) <;> rfl

/-! ## The key pressed last -/

/-- **After a run that has not waited for a key, the latch is the key that it pressed last**, if it
was empty before. -/
theorem lastKey_after {s : Machine} (hs : s.lastKey = none) {actions : List Action}
    (hquiet : ∀ m ∈ s.cycleStarts actions, ∀ x, ¬m.Executes (.awaitKey x)) :
    (s.after actions).lastKey = (presses actions).getLast? := by
  have hother : ∀ (s : Machine) (action : Action), action ≠ .step →
      (s.act action).lastKey = (action.pressed?.map some).getD s.lastKey := by
    intro s action haction
    rw [(s.act_of_ne_step haction).2]
    cases action.pressed? <;> rfl
  -- a press puts its key into the latch, so the keys that are put there are those pressed
  have hputs : (actions.filterMap fun action => action.pressed?.map some) =
      (presses actions).map some := by
    rw [presses, List.map_filterMap]
  rw [apply_after_eq_getLast? rfl hother
    fun m hm => (keys_step_of_not_executes (hquiet m hm)).1, hputs, List.getLast?_map, hs]
  cases (presses actions).getLast? <;> rfl

/-- A run has a first part that ends with its last wait for a key, and is empty if there was none,
and a second part without a wait. -/
structure SinceWait (start : Machine) (before since : List Action) : Prop where
  /-- The first part ends with a cycle that waits for a key, unless it is empty. -/
  begins : before = [] ∨ ∃ earlier x, before = earlier ++ [.step] ∧
    (start.after earlier).Executes (.awaitKey x)
  /-- No cycle of the second part waits for a key. -/
  quiet : ∀ m ∈ (start.after before).cycleStarts since, ∀ x, ¬m.Executes (.awaitKey x)

/-- The cycles of a run that goes on by one action. -/
lemma mem_cycleStarts_concat {s m : Machine} {actions : List Action} {action : Action}
    (h : m ∈ s.cycleStarts (actions ++ [action])) :
    m ∈ s.cycleStarts actions ∨ action = .step ∧ m = s.after actions := by
  obtain ⟨part, hpart, rfl⟩ := mem_cycleStarts_iff.mp h
  rcases List.prefix_concat_iff.mp hpart with heq | hpart
  · obtain ⟨rfl, hlast⟩ := List.append_inj' heq rfl
    exact .inr ⟨(List.cons.inj hlast).1.symm, rfl⟩
  · exact .inl (mem_cycleStarts_iff.mpr ⟨part, hpart, rfl⟩)

/-- **Every run is divided by its last wait for a key.**

**Proof sketch.** By induction on the run: a cycle that waits ends the first part, and any other
action belongs to the second. -/
theorem exists_sinceWait (start : Machine) (actions : List Action) :
    ∃ before since, actions = before ++ since ∧ SinceWait start before since := by
  induction actions using List.reverseRecOn with
  | nil => exact ⟨[], [], rfl, .inl rfl, fun m hm => absurd hm List.not_mem_nil⟩
  | append_singleton actions action ih =>
    by_cases hwait : action = .step ∧ ∃ x, (start.after actions).Executes (.awaitKey x)
    · obtain ⟨rfl, x, hx⟩ := hwait
      exact ⟨actions ++ [.step], [], by simp, .inr ⟨actions, x, rfl, hx⟩,
        fun m hm => absurd hm List.not_mem_nil⟩
    · obtain ⟨before, since, rfl, hbegins, hquiet⟩ := ih
      refine ⟨before, since ++ [action], by simp, hbegins, fun m hm x hx => ?_⟩
      rcases mem_cycleStarts_concat hm with hm | ⟨haction, rfl⟩
      · exact hquiet m hm x hx
      · exact hwait ⟨haction, x, by rwa [after_append]⟩

/-- The latch tells what was pressed since the last wait for a key. -/
lemma SinceWait.lastKey_eq {start : Machine} {before since : List Action}
    (h : SinceWait start before since) (hstart : start.lastKey = none) :
    (start.after (before ++ since)).lastKey = (presses since).getLast? := by
  rw [after_append]
  refine lastKey_after ?_ h.quiet
  rcases h.begins with rfl | ⟨earlier, x, rfl, hx⟩
  · exact hstart
  · rw [after_concat]
    exact lastKey_step_of_executes hx

/-! ## The history of a run -/

/-- What a run decides about keys, from a machine that holds none and has none latched. -/
structure FollowsHistory (start : Machine) (actions : List Action) : Prop where
  /-- The keys that are held are those that the last action that concerned them pressed. -/
  held : ∀ k, (start.after actions).keypad.held k = true ↔
    (keySettings k actions).getLast? = some true
  /-- The run is divided by its last wait for a key. -/
  divided : ∃ before since, actions = before ++ since ∧ SinceWait start before since
  /-- The latch holds the key pressed last since then, and minus one if none was. -/
  latched : ∀ before since, actions = before ++ since → SinceWait start before since →
    (start.after actions).latch = (presses since).getLast?.elim (-1) fun k => (k.val : ℤ)
  /-- A skip on a held key skips exactly if the key named by its register was pressed last. -/
  skipKey : ∀ x (k : Key), (start.after actions).Executes (.skipKey x) →
    ((start.after actions).reg x).toNat % 16 = k.val →
      (start.after actions).step.pc = (start.after actions).pc +
        if (keySettings k actions).getLast? = some true then 4 else 2
  /-- A skip on a key that is not held skips exactly if it was not. -/
  skipNoKey : ∀ x (k : Key), (start.after actions).Executes (.skipNoKey x) →
    ((start.after actions).reg x).toNat % 16 = k.val →
      (start.after actions).step.pc = (start.after actions).pc +
        if (keySettings k actions).getLast? = some true then 2 else 4
  /-- Whatever is asked for next is performed, unless it is refused with its error. -/
  performed : ∀ action, (start.after actions).perform action =
    match action.complaint? with
    | some error => .error error
    | none => .ok ((start.after actions).act action)
  /-- The actions that were refused count as not having happened. -/
  dropped : start.after (actions.filter fun action => action.complaint?.isNone) =
    start.after actions

/-- **Keys follow the history of every run** of every program, whatever cycles, periods of the
timers and keys come in which order.

**Proof sketch.** Held keys change with the actions that concern them and with nothing else, and at
the beginning none is held. The latch changes with presses and is cleared by every cycle that
waits, so it tells of the presses since. -/
theorem followsHistory_of_run (key : RandomKey) (rom : List UInt8) (hrom : rom.length ≤ romCapacity)
    (actions : List Action) :
    ∃ start, (new key).loadRom rom = .ok start ∧ FollowsHistory start actions := by
  have hreleased : { new key with
      memory := (new key).memory.writeBytes programStart rom }.keypad = .released := rfl
  have hnone : { new key with
      memory := (new key).memory.writeBytes programStart rom }.lastKey = none := rfl
  refine ⟨_, loadRom_eq_ok _ hrom, ?_⟩
  generalize { new key with memory := (new key).memory.writeBytes programStart rom } = start
    at hreleased hnone ⊢
  have hheld (k : Key) : (start.after actions).keypad.held k = true ↔
      (keySettings k actions).getLast? = some true := by
    rw [held_after, hreleased]
    cases (keySettings k actions).getLast? with
    | none => simp [Keypad.held, Keypad.released]
    | some isHeld => simp
  refine
    { held := hheld
      divided := exists_sinceWait start actions
      latched := ?_
      skipKey := fun x k hx hk => ?_
      skipNoKey := fun x k hx hk => ?_
      performed := (start.after actions).perform_eq
      dropped := start.after_filter_complaint actions }
  · rintro before since rfl h
    rw [latch, h.lastKey_eq hnone]
    cases (presses since).getLast? <;> rfl
  · rw [pc_step_of_skipKey hx hk]
    simp only [hheld k]
  · rw [pc_step_of_skipNoKey hx hk]
    simp only [hheld k]

/-- A program that waits for a key and skips if the key is held. The press before the wait is
forgotten by the latch but not by the keypad; of the two requests after it one is refused, and the
key that the program gets is held when it asks. -/
theorem followsHistory_of_run_key_held :
    [0xF0, 0x0A, 0xE0, 0x9E].length ≤ romCapacity ∧
      ∃ start, (new ⟨0, 0⟩).loadRom [0xF0, 0x0A, 0xE0, 0x9E] = .ok start ∧
        let actions : List Action := [.press 3, .step, .press 16, .press 5, .step]
        FollowsHistory start actions ∧
        (start.after actions).Executes (.skipKey 0) ∧
        ((start.after actions).reg 0).toNat % 16 = 5 ∧
        (keySettings 3 actions).getLast? = some true ∧
        (keySettings 5 actions).getLast? = some true ∧
        (start.after actions).latch = -1 ∧
        (start.after actions).step.pc = 0x206 := by
  obtain ⟨start, hload, h⟩ := followsHistory_of_run ⟨0, 0⟩ [0xF0, 0x0A, 0xE0, 0x9E] (by decide)
    [.press 3, .step, .press 16, .press 5, .step]
  refine ⟨by decide, start, hload, h, ?_⟩
  obtain rfl := Except.ok.inj ((loadRom_eq_ok _ (by decide)).symm.trans hload)
  exact ⟨⟨by decide +kernel, by decide +kernel⟩, by decide +kernel, by decide, by decide,
    by decide +kernel, by decide +kernel⟩

end Machine

end Chip8
