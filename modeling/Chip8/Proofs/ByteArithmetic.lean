import Chip8.Proofs.Ownership

set_option autoImplicit false

/-!
# Arithmetic between registers

Nine operations combine two registers. Four of them leave a byte; the other five leave a byte and a
bit, which together make up the exact sum, difference, half or double, and the bit is the flag. Both
registers are read before the first of them is written, and the flag register is written last. So
the two registers may be the same, and where the first one is the flag register the bit stays in it
and the byte is lost.

## Main definitions

* `Chip8.ArithmeticOp.Yields` — the byte and the bit that an operation makes of two bytes.
* `Chip8.Machine.afterArithmetic` — the machine after the word of an operation.
* `Chip8.Machine.Calculates` — what the operations on two registers guarantee.

## Main results

* `Chip8.ArithmeticOp.yields` — the result and the flag solve the equation of their operation.
* `Chip8.Machine.calculates` — the guarantees hold of every machine and any two registers.
-/

namespace Chip8

/-! ## Bytes and bits -/

namespace ArithmeticOp

/-- The byte and the bit that an operation makes of two bytes, all of them as numbers. A carry is
worth 256, and a bit that is missing from a difference was borrowed. -/
def Yields (a b byte bit : ℕ) : ArithmeticOp → Prop
  | .copy => byte = b
  | .or => byte = a ||| b
  | .and => byte = a &&& b
  | .xor => byte = a ^^^ b
  | .add => 256 * bit + byte = a + b
  | .sub => (byte : ℤ) = a - b + 256 * (1 - bit)
  | .shiftRight => 2 * byte + bit = a
  | .subFrom => (byte : ℤ) = b - a + 256 * (1 - bit)
  | .shiftLeft => 256 * bit + byte = 2 * a

/-- The flag of an operation as a bit, and zero for an operation without a flag. -/
def bit (op : ArithmeticOp) (a b : UInt8) : Bool :=
  (op.flag? a b).getD false

variable (op : ArithmeticOp) (a b : UInt8)

lemma flag?_eq : op.flag? a b = if op.hasFlag then some (op.bit a b) else none := by
  cases op <;> rfl

/-- A byte that is subtracted from a smaller one borrows 256. -/
lemma toNat_sub_eq :
    ((a - b).toNat : ℤ) = a.toNat - b.toNat + 256 * (1 - (decide (b ≤ a)).toNat) := by
  have ha := a.toNat_lt
  have hb := b.toNat_lt
  rw [UInt8.toNat_sub]
  by_cases h : b.toNat ≤ a.toNat
  · have hle : decide (b ≤ a) = true := decide_eq_true h
    rw [hle, Bool.toNat_true]
    omega
  · have hlt : decide (b ≤ a) = false := decide_eq_false h
    rw [hlt, Bool.toNat_false]
    omega

/-- **The result and the flag solve the equation of their operation.** -/
theorem yields : op.Yields a.toNat b.toNat (op.result a b).toNat (op.bit a b).toNat := by
  have ha := a.toNat_lt
  have hb := b.toNat_lt
  have hone : (1 : UInt8).toNat % 8 = 1 := rfl
  cases op with
  | copy => rfl
  | or => exact UInt8.toNat_or a b
  | and => exact UInt8.toNat_and a b
  | xor => exact UInt8.toNat_xor a b
  | add =>
    show 256 * (decide (256 ≤ a.toNat + b.toNat)).toNat + (a + b).toNat = a.toNat + b.toNat
    rw [UInt8.toNat_add]
    by_cases h : 256 ≤ a.toNat + b.toNat
    · rw [decide_eq_true h, Bool.toNat_true]
      omega
    · rw [decide_eq_false h, Bool.toNat_false]
      omega
  | sub => exact toNat_sub_eq a b
  | shiftRight =>
    show 2 * (a >>> 1).toNat + (a.toNat.testBit 0).toNat = a.toNat
    rw [UInt8.toNat_shiftRight, hone, Nat.shiftRight_one, Nat.toNat_testBit, pow_zero, Nat.div_one]
    omega
  | subFrom => exact toNat_sub_eq b a
  | shiftLeft =>
    show 256 * (a.toNat.testBit 7).toNat + (a <<< 1).toNat = 2 * a.toNat
    rw [UInt8.toNat_shiftLeft, hone, Nat.shiftLeft_eq, Nat.toNat_testBit]
    omega

end ArithmeticOp

namespace Machine

/-! ## Registers -/

/-- The machine after the word of an operation on the registers `x` and `y`. -/
def afterArithmetic (s : Machine) (op : ArithmeticOp) (x y : Register) : Machine :=
  s.execute (0x8000 + 0x100 * x.val + 0x10 * y.val + op.digit : ℕ)

variable (s : Machine) (op : ArithmeticOp) (x y : Register)

lemma afterArithmetic_eq : s.afterArithmetic op x y = s.arithmetic op x y :=
  execute_word_of_run (i := .arithmetic op x y) rfl

/-- The flag register holds the bit of an operation with a flag: it is written last. -/
lemma reg_flag_arithmetic (hop : op.hasFlag = true) :
    (s.arithmetic op x y).reg .flag = (op.bit (s.reg x) (s.reg y)).toUInt8 := by
  rw [arithmetic, ArithmeticOp.flag?_eq, if_pos hop]
  exact (reg_setReg _ _ _ _).trans (if_pos rfl)

/-- The first register holds the byte, unless the bit is written over it. -/
lemma reg_first_arithmetic (hx : op.hasFlag = true → x ≠ .flag) :
    (s.arithmetic op x y).reg x = op.result (s.reg x) (s.reg y) := by
  have hfirst : (s.setReg x (op.result (s.reg x) (s.reg y))).reg x =
      op.result (s.reg x) (s.reg y) := (s.reg_setReg x x _).trans (if_pos rfl)
  rw [arithmetic, ArithmeticOp.flag?_eq]
  cases hop : op.hasFlag with
  | false => exact hfirst
  | true => exact (reg_setReg _ _ _ _).trans ((if_neg (hx hop).symm).trans hfirst)

/-- What an operation does has nothing to do with where the machine stands. -/
lemma arithmetic_at (pc : UInt16) :
    { s with pc }.arithmetic op x y = { s.arithmetic op x y with pc } := by
  have hread : ∀ j, { s with pc }.reg j = s.reg j := fun _ => rfl
  rw [arithmetic, arithmetic, hread, hread]
  cases op.flag? (s.reg x) (s.reg y) <;> rfl

/-! ## The operations on two registers -/

/-- What the operations on two registers guarantee, whether the registers differ or not and whether
one of them is the flag register. -/
structure Calculates : Prop where
  /-- A byte and a bit solve the equation of the operation on what the registers held. The flag
  register holds the bit of an operation with a flag, and the first register holds the byte unless
  it is the flag register of such an operation. -/
  yields : ∀ op : ArithmeticOp, ∃ byte bit : ℕ, byte ≤ 255 ∧ bit ≤ 1 ∧
    op.Yields (s.reg x).toNat (s.reg y).toNat byte bit ∧
    (op.hasFlag = true → ((s.afterArithmetic op x y).reg .flag).toNat = bit) ∧
    ((op.hasFlag = true → x ≠ .flag) → ((s.afterArithmetic op x y).reg x).toNat = byte)
  /-- Every register other than the first one, and other than the flag register of an operation with
  a flag, keeps its value. -/
  others : ∀ (op : ArithmeticOp) (j : Register), j ≠ x → (op.hasFlag = true → j ≠ .flag) →
    (s.afterArithmetic op x y).reg j = s.reg j
  /-- Nothing but registers is written. -/
  frame : ∀ op : ArithmeticOp,
    s.afterArithmetic op x y = { s with registers := (s.afterArithmetic op x y).registers }
  /-- A cycle that performs an operation writes the same registers, and moves the program counter
  past the word. -/
  cycle : ∀ op : ArithmeticOp, s.Executes (.arithmetic op x y) →
    s.step = { s with pc := s.pc + 2, registers := (s.afterArithmetic op x y).registers }

/-- **The operations calculate what they should**, on every machine and any two registers.

**Proof sketch.** The byte is the result and the bit the flag; they solve the equation by `yields`.
The flag register is written last, so it is only the byte that can be lost. -/
theorem calculates : s.Calculates x y where
  yields := by
    intro op
    refine ⟨(op.result (s.reg x) (s.reg y)).toNat, (op.bit (s.reg x) (s.reg y)).toNat, ?_,
      Bool.toNat_le _, op.yields _ _, fun hop => ?_, fun hx => ?_⟩
    · exact Nat.le_of_lt_succ (UInt8.toNat_lt _)
    · rw [afterArithmetic_eq, reg_flag_arithmetic s op x y hop]
      cases op.bit (s.reg x) (s.reg y) <;> rfl
    · rw [afterArithmetic_eq, reg_first_arithmetic s op x y hx]
  others := by
    intro op j hj hflag
    rw [afterArithmetic_eq]
    have hkept : (Part.register j).Kept s (s.arithmetic op x y) :=
      Part.kept_arithmetic s (by simpa using hj) (by simpa using hflag)
    exact hkept
  frame := by
    intro op
    rw [afterArithmetic_eq]
    exact s.arithmetic_eq op x y
  cycle := by
    intro op hi
    have hstep : s.step = s.advance.arithmetic op x y := step_of_run hi rfl
    rw [hstep, advance, arithmetic_at, arithmetic_eq, afterArithmetic_eq]

end Machine

end Chip8
