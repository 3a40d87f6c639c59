import Chip8.Proofs.Frames
import Chip8.Proofs.KeyWait

set_option autoImplicit false

/-!
# Machines that wait

A machine that waits for a key runs on the spot: it stands on the instruction that waits, and no
cycle changes it until a key is pressed. This holds after any operations, whatever the program
writes into its own memory, since nothing but the waiting instruction is executed meanwhile. The
key in the latch is always one that was pressed.

## Main definitions

* `Chip8.Machine.latch` — the key pressed last, as a number.
* `Chip8.Machine.LatchIn` — the latch holds nothing but keys of a certain kind.
* `Chip8.Machine.WaitsInPlace` — how a machine waits for a key after some operations.

## Main results

* `Chip8.Machine.latchIn_afterAll` — the latch holds nothing but keys that were pressed.
* `Chip8.Machine.waitsInPlace_of_run` — how machines wait, in every run of operations.
-/

namespace Chip8

/-- The numbers of keys are those below sixteen. -/
lemma Key.ofInt_eq_ok_iff {n : ℤ} {k : Key} : Key.ofInt n = .ok k ↔ n = k.val := by
  unfold Key.ofInt
  split
  case isTrue h =>
    rw [Except.ok.injEq, Fin.ext_iff]
    show n.toNat = k.val ↔ n = k.val
    omega
  case isFalse h =>
    have := k.isLt
    simp only [reduceCtorEq, false_iff]
    omega

/-- The key that an operation presses. -/
def Operation.pressed? : Operation → Option Key
  | .act action => action.pressed?
  | _ => none

/-- An operation that presses a key is a press of its number. -/
lemma Operation.eq_press_of_pressed? {operation : Operation} {k : Key}
    (h : operation.pressed? = some k) : operation = .act (.press k.val) := by
  obtain ⟨key, rfl⟩ : ∃ key, operation = .act (.press key) := by
    cases operation with
    | act action =>
      cases action with
      | press key => exact ⟨key, rfl⟩
      | _ => cases h
    | _ => cases h
  have hkey : (Key.ofInt key).toOption = some k := h
  cases hof : Key.ofInt key with
  | error _ =>
    rw [hof] at hkey
    cases hkey
  | ok k' =>
    rw [hof] at hkey
    cases hkey
    rw [Key.ofInt_eq_ok_iff.mp hof]

namespace Machine

/-! ## The latch -/

/-- The number of the key pressed last, and minus one if none is latched. -/
def latch (s : Machine) : ℤ :=
  match s.lastKey with
  | some k => k.val
  | none => -1

/-- The latch holds nothing but keys of a certain kind. -/
def LatchIn (kind : Key → Prop) (s : Machine) : Prop :=
  ∀ k, s.lastKey = some k → kind k

/-- A cycle that waits for a key clears the latch, whether it finds one or not. -/
lemma lastKey_step_of_executes {s : Machine} {x : Register} (h : s.Executes (.awaitKey x)) :
    s.step.lastKey = none := by
  rw [step_of_run h rfl, awaitKey]
  split <;> rfl

/-- Any other cycle leaves the latch as it is, and the held keys. -/
lemma keys_step_of_not_executes {s : Machine} (h : ∀ x, ¬s.Executes (.awaitKey x)) :
    s.step.lastKey = s.lastKey ∧ s.step.keypad = s.keypad := by
  rcases s.step_cases with ⟨r, -, hstep⟩ | ⟨trap, -, -, hstep⟩ | ⟨i, s', hi, hrun, hstep⟩
  · rw [hstep]
    exact ⟨rfl, rfl⟩
  · rw [hstep]
    exact ⟨rfl, rfl⟩
  · have hwait : ∀ x, i ≠ .awaitKey x := by
      rintro x rfl
      exact h x hi
    have hsame := sameControls_of_run hrun hwait
    rw [hstep]
    exact ⟨hsame.lastKey, hsame.keypad⟩

/-- A cycle leaves the latch as it is, or clears it. -/
lemma lastKey_step (s : Machine) : s.step.lastKey = s.lastKey ∨ s.step.lastKey = none := by
  by_cases h : ∃ x, s.Executes (.awaitKey x)
  · obtain ⟨x, hx⟩ := h
    exact .inr (lastKey_step_of_executes hx)
  · exact .inl (keys_step_of_not_executes fun x hx => h ⟨x, hx⟩).1

/-- An operation puts nothing into the latch but the key that it presses. -/
lemma LatchIn.operate (host : Host) {kind : Key → Prop} {s : Machine} (hs : s.LatchIn kind)
    {operation : Operation} (hpressed : ∀ k, operation.pressed? = some k → kind k) :
    (s.settle (s.operate host operation)).LatchIn kind := by
  have hstep : ∀ s : Machine, s.LatchIn kind → s.step.LatchIn kind := by
    intro s hs k hk
    rcases s.lastKey_step with hsame | hnone
    · exact hs k (hsame ▸ hk)
    · cases hnone.symm.trans hk
  refine operate_keeps hstep (fun s hs => hs) hs fun action haction k hk => ?_
  subst haction
  by_cases hcycle : action = .step
  · subst hcycle
    exact hstep s hs k hk
  · rw [(s.act_of_ne_step hcycle).2, Option.or_eq_some_iff] at hk
    rcases hk with hpress | ⟨-, hbefore⟩
    · exact hpressed k hpress
    · exact hs k hbefore

/-- **The latch holds nothing but keys that were pressed**, after any operations of a machine that
has none latched.

**Proof sketch.** By induction on the operations: each puts nothing into the latch but the key that
it presses. -/
theorem latchIn_afterAll (host : Host) {s : Machine} (hs : s.lastKey = none)
    (operations : List Operation) :
    (s.afterAll host operations).LatchIn fun k => .act (.press k.val) ∈ operations := by
  have hrun : ∀ (kind : Key → Prop) (s : Machine) (operations : List Operation), s.LatchIn kind →
      (∀ k, .act (.press k.val) ∈ operations → kind k) →
        (s.afterAll host operations).LatchIn kind := by
    intro kind s operations
    induction operations generalizing s with
    | nil => exact fun hs _ => hs
    | cons operation operations ih =>
      intro hs hkind
      refine ih _ (hs.operate host fun k hk => hkind k ?_) fun k hk => hkind k (.tail _ hk)
      rw [Operation.eq_press_of_pressed? hk]
      exact .head _
  exact hrun _ s operations (fun k hk => by cases hs.symm.trans hk) fun k hk => hk

/-! ## Waiting in place -/

/-- How a machine waits for a key after some operations. -/
structure WaitsInPlace (operations : List Operation) (s : Machine) : Prop where
  /-- The latch is empty or holds the number of a key, which one of the operations pressed. -/
  latched : s.latch = -1 ∨ 0 ≤ s.latch ∧ s.latch ≤ 15 ∧ .act (.press s.latch) ∈ operations
  /-- A machine that waits has not stopped, and its next word is the word of an instruction that
  waits. -/
  stands : s.awaitingKey = true →
    s.isFaulted = false ∧ ∃ x : Register, s.nextWord.toNat = 0xF00A + 0x100 * x.val
  /-- As long as it has found no key a cycle leaves it as it is, and so does any number of them. -/
  stays : s.isWaiting = true → s.step = s ∧ ∀ n, s.runSteps n = s

/-- A latch that holds nothing but keys that were pressed, in numbers. -/
lemma latch_of_latchIn {s : Machine} {operations : List Operation}
    (h : s.LatchIn fun k => .act (.press k.val) ∈ operations) :
    s.latch = -1 ∨ 0 ≤ s.latch ∧ s.latch ≤ 15 ∧ .act (.press s.latch) ∈ operations := by
  unfold latch
  cases hk : s.lastKey with
  | none => exact .inl rfl
  | some k =>
    have := k.isLt
    exact .inr ⟨by simp, by simp only; omega, h k hk⟩

/-- **How machines wait, in every run of operations** from a new machine with a program that fits.

**Proof sketch.** A new machine does not wait and has no key latched. No action takes a waiting
machine away from the instruction that waits, hence no operation does, and a cycle of that
instruction that finds no key does nothing. -/
theorem waitsInPlace_of_run (host : Host) (key : RandomKey) (rom : List UInt8)
    (hrom : rom.length ≤ romCapacity) (operations : List Operation) :
    ∃ start, (new key).loadRom rom = .ok start ∧
      WaitsInPlace operations (start.afterAll host operations) := by
  have hidle : { new key with
      memory := (new key).memory.writeBytes programStart rom }.awaitingKey = false := rfl
  have hnone : { new key with
      memory := (new key).memory.writeBytes programStart rom }.lastKey = none := rfl
  refine ⟨_, loadRom_eq_ok _ hrom, ?_⟩
  generalize { new key with memory := (new key).memory.writeBytes programStart rom } = start
    at hidle hnone ⊢
  have hpoised : start.Poised := fun hon => by cases hidle.symm.trans hon
  have hlast := lasting_poised.afterAll host hpoised operations
  refine ⟨latch_of_latchIn (latchIn_afterAll host hnone operations), fun hon => ?_,
    fun hwaiting => ?_⟩
  · obtain ⟨x, hx⟩ := hlast hon
    exact ⟨by rw [isFaulted, hx.executes.healthy]; rfl, x, hx.executes.word⟩
  · have hstep := step_of_isWaiting hlast hwaiting
    exact ⟨hstep, runSteps_of_step_eq hstep⟩

/-- A program that writes the word of a wait behind itself and goes on there: after a key that comes
too early, frames without a screen end where it waits, and nothing is latched. -/
theorem waitsInPlace_of_run_written :
    [0x60, 0xF5, 0x61, 0x0A, 0xA2, 0x08, 0xF1, 0x55].length ≤ romCapacity ∧
      ∃ start, (new ⟨0, 0⟩).loadRom [0x60, 0xF5, 0x61, 0x0A, 0xA2, 0x08, 0xF1, 0x55] =
          .ok start ∧
        let waiting := start.afterAll .standard
          [.act (.press 9), .runHeadless 2 3 true, .act (.press 16), .runSteps 4]
        WaitsInPlace
          [.act (.press 9), .runHeadless 2 3 true, .act (.press 16), .runSteps 4] waiting ∧
        waiting.isWaiting = true ∧ waiting.pc = 0x208 ∧ waiting.latch = -1 := by
  obtain ⟨start, hload, hrun⟩ := waitsInPlace_of_run .standard ⟨0, 0⟩
    [0x60, 0xF5, 0x61, 0x0A, 0xA2, 0x08, 0xF1, 0x55] (by decide)
    [.act (.press 9), .runHeadless 2 3 true, .act (.press 16), .runSteps 4]
  refine ⟨by decide, start, hload, hrun, ?_⟩
  obtain rfl := Except.ok.inj ((loadRom_eq_ok _ (by decide)).symm.trans hload)
  decide +kernel

end Machine

end Chip8
