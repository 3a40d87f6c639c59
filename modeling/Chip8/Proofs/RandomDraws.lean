import Chip8.Proofs.Calls

set_option autoImplicit false

/-!
# Random draws

The random bytes that a program gets are those of one stream, which the state of the generator at
the beginning decides. Each random instruction that is performed takes the next byte of the stream,
masks it and loads it into its register; nothing else moves the generator, neither another
instruction nor a fault nor what the surroundings do. So two programs that begin with the same state
get the same bytes, wherever they load them, however they mask them and whatever happens in between.

## Main definitions

* `Chip8.RandomKey.stream` — the bytes that the generator yields from a state on.
* `Chip8.Draw` — a random byte that a program gets.
* `Chip8.Machine.draws` — the draws of a run.
* `Chip8.Machine.DrawsFrom` — the draws of a run take their bytes from the stream of a state.

## Main results

* `Chip8.Machine.draw?_cases` — what a cycle does with the generator.
* `Chip8.Machine.drawsFrom` — every run draws from the stream of the state at its beginning.
* `Chip8.Machine.sameStream_of_run` — machines with the same state of the generator get the same
  bytes.
-/

namespace Chip8

/-! ## The stream -/

/-- The bytes that the generator yields from a state on, counted from zero. -/
def RandomKey.stream (key : RandomKey) (j : ℕ) : UInt8 :=
  (j.repeat RandomKey.next key).byte

/-- The stream of the next state is the rest of the stream. -/
lemma RandomKey.stream_next (key : RandomKey) (j : ℕ) :
    key.next.stream j = key.stream (j + 1) := by
  rw [stream, stream, repeat_succ]

/-! ## Draws -/

/-- Whether an instruction draws a random byte. -/
def Instruction.isRandom : Instruction → Bool
  | .random _ _ => true
  | _ => false

/-- A random byte that a program gets. -/
structure Draw where
  /-- The register that it is loaded into. -/
  register : Register
  /-- The mask. -/
  mask : UInt8
  /-- What the register holds afterwards. -/
  value : UInt8
  deriving DecidableEq, Repr

/-- The instruction of a draw. -/
def Draw.instruction (d : Draw) : Instruction :=
  .random d.register d.mask

namespace Machine

/-- The draw that the next cycle makes, if it performs a random instruction. -/
def draw? (s : Machine) : Option Draw :=
  match s.performed? with
  | some (.random register mask) => some { register, mask, value := s.step.reg register }
  | _ => none

/-- The draws that the cycles of a run make, in order. -/
def draws (s : Machine) : List Action → List Draw
  | [] => []
  | .step :: actions => s.draw?.toList ++ s.step.draws actions
  | action :: actions => (s.act action).draws actions

/-! ## Cycles -/

/-- Only random instructions move the generator. -/
lemma randomKey_of_run {i : Instruction} {s s' : Machine} (h : i.run s = .ok s')
    (hi : i.isRandom = false) : s'.randomKey = s.randomKey := by
  cases i with
  | random x mask => cases hi
  | call target =>
    cases hp : s.stack.push? s.pc <;> simp only [Instruction.run, hp, reduceCtorEq] at h
    cases h
    rfl
  | ret =>
    cases hp : s.stack.pop? <;> simp only [Instruction.run, hp, reduceCtorEq] at h
    cases h
    rfl
  | awaitKey x =>
    cases h
    unfold awaitKey
    split <;> rfl
  | arithmetic op x y =>
    cases h
    rw [arithmetic_eq]
  | skipEqByte | skipNeByte | skipEqRegister | skipNeRegister | skipKey | skipNoKey =>
    cases h
    rw [skipIf_eq]
  | _ =>
    cases h
    dsimp only [jumpTo, setReg, setFlag, drawSprite, storeAtIndex, loadFromIndex]

/-- **What a cycle does with the generator**: it makes a draw of the next byte and moves the
generator on once, or performs no random instruction and leaves the generator alone. -/
lemma draw?_cases (s : Machine) :
    (∃ d, s.draw? = some d ∧ s.performed? = some d.instruction ∧
      d.value = s.randomKey.byte &&& d.mask ∧ s.step.randomKey = s.randomKey.next) ∨
    (s.draw? = none ∧ (∀ i, s.performed? = some i → i.isRandom = false) ∧
      s.step.randomKey = s.randomKey) := by
  have hstopped : ∀ r, s.step.fault = some r → s.performed? = none := fun r hr => by
    rw [performed?, isFaulted, hr]
    rfl
  rcases s.step_cases with ⟨r, hr, hstep⟩ | ⟨trap, -, -, hstep⟩ | ⟨i, s', hi, hrun, hstep⟩
  · have hnone := hstopped r (by rw [hstep, hr])
    exact .inr ⟨by rw [draw?, hnone], by rw [hnone]; simp, by rw [hstep]⟩
  · have hnone := hstopped _ (by rw [hstep]; rfl)
    exact .inr ⟨by rw [draw?, hnone], by rw [hnone]; simp, by rw [hstep]; rfl⟩
  · have hperformed : s.performed? = some i := by
      refine performed?_eq_some_iff.mpr ⟨hi, ?_⟩
      rw [hstep, fault_of_run hrun]
      exact hi.healthy
    cases hrandom : i.isRandom with
    | false =>
      refine .inr ⟨?_, fun j hj => ?_, ?_⟩
      · rw [draw?, hperformed]
        cases i <;> first | rfl | cases hrandom
      · rw [← Option.some.inj (hperformed.symm.trans hj), hrandom]
      · rw [hstep, randomKey_of_run hrun hrandom]
        rfl
    | true =>
      obtain ⟨x, mask, rfl⟩ : ∃ x mask, i = .random x mask := by
        cases i <;> first | exact ⟨_, _, rfl⟩ | cases hrandom
      cases hrun
      refine .inl ⟨{ register := x, mask, value := s.step.reg x }, by rw [draw?, hperformed],
        hperformed, ?_, by rw [hstep]; rfl⟩
      rw [hstep]
      exact (s.advance.reg_setReg x x _).trans (if_pos rfl)

lemma randomKey_act_of_ne_step (s : Machine) {action : Action} (h : action ≠ .step) :
    (s.act action).randomKey = s.randomKey := by
  rw [s.act_eq_of_ne_step h]

/-- Only cycles make draws and perform instructions. -/
lemma draws_and_performed_cons_of_ne_step (s : Machine) {action : Action} (h : action ≠ .step)
    (actions : List Action) :
    s.draws (action :: actions) = (s.act action).draws actions ∧
      s.performed (action :: actions) = (s.act action).performed actions := by
  cases action with
  | step => exact absurd rfl h
  | _ => exact ⟨rfl, rfl⟩

/-! ## Runs -/

/-- The draws of a run take their bytes from the stream of a state of the generator. -/
structure DrawsFrom (key : RandomKey) (start : Machine) (actions : List Action) : Prop where
  /-- The draws are the random instructions that the run performs. -/
  performed : (start.draws actions).map Draw.instruction =
    (start.performed actions).filter Instruction.isRandom
  /-- The generator has moved on once for each draw, and not otherwise. -/
  moved : (start.after actions).randomKey =
    (start.draws actions).length.repeat RandomKey.next key
  /-- A draw loads the byte of its number, masked, into its register. -/
  value : ∀ j d, (start.draws actions)[j]? = some d → d.value = key.stream j &&& d.mask

namespace DrawsFrom

variable {key : RandomKey} {s : Machine} {actions : List Action}

/-- A cycle that makes a draw takes the first byte of the stream and leaves the rest. -/
lemma cons_draw (h : DrawsFrom key.next s.step actions) {d : Draw} (hd : s.draw? = some d)
    (hperformed : s.performed? = some d.instruction) (hvalue : d.value = key.byte &&& d.mask) :
    DrawsFrom key s (.step :: actions) := by
  have hdraws : s.draws (.step :: actions) = d :: s.step.draws actions := by
    rw [draws, hd]
    rfl
  have hfirst : s.performed (.step :: actions) = d.instruction :: s.step.performed actions := by
    rw [Machine.performed, hperformed]
    rfl
  refine ⟨?_, ?_, fun j d' hd' => ?_⟩
  · rw [hdraws, hfirst, List.map_cons, List.filter_cons_of_pos rfl, h.performed]
  · rw [hdraws, List.length_cons, repeat_succ]
    exact h.moved
  · rw [hdraws] at hd'
    cases j with
    | zero =>
      rw [List.getElem?_cons_zero, Option.some.injEq] at hd'
      rw [← hd']
      exact hvalue
    | succ j =>
      rw [List.getElem?_cons_succ] at hd'
      rw [h.value j d' hd', key.stream_next]

/-- A cycle that performs no random instruction leaves the whole stream. -/
lemma cons_idle (h : DrawsFrom key s.step actions) (hd : s.draw? = none)
    (hperformed : ∀ i, s.performed? = some i → i.isRandom = false) :
    DrawsFrom key s (.step :: actions) := by
  have hdraws : s.draws (.step :: actions) = s.step.draws actions := by
    rw [draws, hd]
    rfl
  have hfilter : (s.performed (.step :: actions)).filter Instruction.isRandom =
      (s.step.performed actions).filter Instruction.isRandom := by
    have hnone : s.performed?.toList.filter Instruction.isRandom = [] :=
      List.filter_eq_nil_iff.mpr fun i hi => by simp [hperformed i (Option.mem_toList.mp hi)]
    rw [Machine.performed, List.filter_append, hnone, List.nil_append]
  refine ⟨?_, ?_, fun j d' hd' => ?_⟩
  · rw [hdraws, hfilter, h.performed]
  · rw [hdraws]
    exact h.moved
  · rw [hdraws] at hd'
    exact h.value j d' hd'

end DrawsFrom

/-- **Every run draws from the stream of the state at its beginning.**

**Proof sketch.** By induction on the run, for all machines. A cycle that makes a draw takes the
first byte of the stream and leaves the rest of it, and anything else leaves all of it. -/
theorem drawsFrom (s : Machine) (actions : List Action) : DrawsFrom s.randomKey s actions := by
  induction actions generalizing s with
  | nil => exact ⟨rfl, rfl, fun j d hd => by cases hd⟩
  | cons action actions ih =>
    by_cases haction : action = .step
    · subst haction
      have hrest := ih s.step
      rcases s.draw?_cases with ⟨d, hd, hperformed, hvalue, hkey⟩ | ⟨hnone, hidle, hkey⟩
      · rw [hkey] at hrest
        exact hrest.cons_draw hd hperformed hvalue
      · rw [hkey] at hrest
        exact hrest.cons_idle hnone hidle
    · have hrest := ih (s.act action)
      obtain ⟨hdraws, hperformed⟩ := s.draws_and_performed_cons_of_ne_step haction actions
      rw [s.randomKey_act_of_ne_step haction] at hrest
      refine ⟨?_, ?_, fun j d hd => ?_⟩
      · rw [hdraws, hperformed, hrest.performed]
      · rw [hdraws]
        exact hrest.moved
      · rw [hdraws] at hd
        exact hrest.value j d hd

/-- **Machines with the same state of the generator get the same random bytes**, whatever they
execute and whatever is done to them. Each draws from the stream of that state, and so two draws of
the same number agree in the bits that both masks let through.

**Proof sketch.** Both runs draw from the same stream, and masks can be applied in any order. -/
theorem sameStream_of_run {s s' : Machine} (h : s'.randomKey = s.randomKey)
    (actions actions' : List Action) :
    DrawsFrom s.randomKey s actions ∧ DrawsFrom s.randomKey s' actions' ∧
      ∀ (j : ℕ) (d d' : Draw), (s.draws actions)[j]? = some d →
        (s'.draws actions')[j]? = some d' → d.value &&& d'.mask = d'.value &&& d.mask := by
  have hfirst := s.drawsFrom actions
  have hsecond := s'.drawsFrom actions'
  rw [h] at hsecond
  refine ⟨hfirst, hsecond, fun j d d' hd hd' => ?_⟩
  rw [hfirst.value j d hd, hsecond.value j d' hd', UInt8.and_assoc, UInt8.and_assoc,
    UInt8.and_comm d.mask]

/-- Two programs with the same seed. The first draws twice. The second does something else first,
masks the first byte otherwise, and stops on a return after its second draw, while a key is pressed
and time passes. The first two bytes of the stream are 212 and 217 for both. -/
theorem sameStream_of_run_two_programs :
    ∃ s s', boot 7 [0xC0, 0xFF, 0xC1, 0x0F] = .ok s ∧
      boot 7 [0x60, 0x05, 0xC3, 0xF0, 0xC4, 0xFF, 0x00, 0xEE] = .ok s' ∧
      (s'.randomKey = s.randomKey ∧ DrawsFrom s.randomKey s [.step, .step] ∧
        DrawsFrom s.randomKey s'
          [.press 3, .step, .step, .decrementTimers, .step, .step, .step]) ∧
      s.draws [.step, .step] = [⟨0, 0xFF, 212⟩, ⟨1, 0x0F, 217 &&& 0x0F⟩] ∧
      s'.draws [.press 3, .step, .step, .decrementTimers, .step, .step, .step] =
        [⟨3, 0xF0, 212 &&& 0xF0⟩, ⟨4, 0xFF, 217⟩] := by
  have hrun : ∀ s s' : Machine, s'.randomKey = s.randomKey →
      s'.randomKey = s.randomKey ∧ DrawsFrom s.randomKey s [.step, .step] ∧
        DrawsFrom s.randomKey s'
          [.press 3, .step, .step, .decrementTimers, .step, .step, .step] := by
    intro s s' h
    obtain ⟨hfirst, hsecond, -⟩ := sameStream_of_run h [.step, .step]
      [.press 3, .step, .step, .decrementTimers, .step, .step, .step]
    exact ⟨h, hfirst, hsecond⟩
  exact ⟨_, _, rfl, rfl, hrun _ _ rfl, by decide +kernel, by decide +kernel⟩

end Machine

end Chip8
