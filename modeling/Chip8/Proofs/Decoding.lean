import Chip8.Instruction
import Mathlib.Tactic

set_option autoImplicit false

/-!
# The opcode table

Every instruction has exactly one word of sixteen bits. The decoder finds the instruction of a word
by its fields, while membership in the opcode table is decided by lists of digits and bytes; here
both are related to the words of the instructions.

## Main definitions

* `Chip8.Instruction.word` — the word of an instruction.

## Main results

* `Chip8.Instruction.decode?_eq_some_iff` — a word decodes to an instruction exactly when its low
  sixteen bits are the word of that instruction.
* `Chip8.Instruction.word_injective` — different instructions have different words.
* `Chip8.Instruction.isSome_decode?` — a word decodes exactly when it is in the opcode table.
-/

namespace Chip8

/-! ## Words of instructions -/

namespace ArithmeticOp

/-- The last digit of the words of an arithmetic operation. -/
def digit : ArithmeticOp → ℕ
  | .copy => 0x0
  | .or => 0x1
  | .and => 0x2
  | .xor => 0x3
  | .add => 0x4
  | .sub => 0x5
  | .shiftRight => 0x6
  | .subFrom => 0x7
  | .shiftLeft => 0xE

/-- The operations by their last digit. -/
lemma ofDigit?_eq_some_iff {n : Fin 16} {op : ArithmeticOp} :
    ofDigit? n = some op ↔ n.val = op.digit := by
  revert n
  cases op <;> decide

/-- The last digit is a digit. -/
lemma digit_lt (op : ArithmeticOp) : op.digit < 16 := by
  cases op <;> decide

end ArithmeticOp

namespace Instruction

/-- The word of an instruction. -/
def word : Instruction → ℕ
  | .clear => 0x00E0
  | .ret => 0x00EE
  | .jump target => 0x1000 + target.val
  | .call target => 0x2000 + target.val
  | .skipEqByte x byte => 0x3000 + 0x100 * x.val + byte.toNat
  | .skipNeByte x byte => 0x4000 + 0x100 * x.val + byte.toNat
  | .skipEqRegister x y => 0x5000 + 0x100 * x.val + 0x10 * y.val
  | .setByte x byte => 0x6000 + 0x100 * x.val + byte.toNat
  | .addByte x byte => 0x7000 + 0x100 * x.val + byte.toNat
  | .arithmetic op x y => 0x8000 + 0x100 * x.val + 0x10 * y.val + op.digit
  | .skipNeRegister x y => 0x9000 + 0x100 * x.val + 0x10 * y.val
  | .setIndex target => 0xA000 + target.val
  | .jumpOffset target => 0xB000 + target.val
  | .random x mask => 0xC000 + 0x100 * x.val + mask.toNat
  | .draw x y height => 0xD000 + 0x100 * x.val + 0x10 * y.val + height.val
  | .skipKey x => 0xE09E + 0x100 * x.val
  | .skipNoKey x => 0xE0A1 + 0x100 * x.val
  | .readDelay x => 0xF007 + 0x100 * x.val
  | .awaitKey x => 0xF00A + 0x100 * x.val
  | .setDelay x => 0xF015 + 0x100 * x.val
  | .setSound x => 0xF018 + 0x100 * x.val
  | .addIndex x => 0xF01E + 0x100 * x.val
  | .glyph x => 0xF029 + 0x100 * x.val
  | .storeDecimal x => 0xF033 + 0x100 * x.val
  | .storeRegisters x => 0xF055 + 0x100 * x.val
  | .loadRegisters x => 0xF065 + 0x100 * x.val

/-- The first digit of the word of an instruction. -/
def tag : Instruction → ℕ
  | .clear | .ret => 0x0
  | .jump _ => 0x1
  | .call _ => 0x2
  | .skipEqByte .. => 0x3
  | .skipNeByte .. => 0x4
  | .skipEqRegister .. => 0x5
  | .setByte .. => 0x6
  | .addByte .. => 0x7
  | .arithmetic .. => 0x8
  | .skipNeRegister .. => 0x9
  | .setIndex _ => 0xA
  | .jumpOffset _ => 0xB
  | .random .. => 0xC
  | .draw .. => 0xD
  | .skipKey _ | .skipNoKey _ => 0xE
  | _ => 0xF

/-- The first digit is a hexadecimal digit. -/
lemma tag_lt (i : Instruction) : i.tag < 16 := by
  cases i <;> simp [tag]

/-- The first digit is what twelve bits further up leave of the word. -/
lemma word_div (i : Instruction) : i.word / 4096 = i.tag := by
  cases i
  case clear | ret => rfl
  case skipEqByte x byte | skipNeByte x byte | setByte x byte | addByte x byte | random x byte =>
    have := byte.toNat_lt
    simp only [word, tag]
    omega
  case arithmetic op x y =>
    have := op.digit_lt
    simp only [word, tag]
    omega
  all_goals
    simp only [word, tag]
    omega

end Instruction

/-! ## Fields -/

namespace Opcode

/-- The low bits of a word are below `65536`. -/
lemma low_lt (w : ℤ) : low w < 65536 := by
  unfold low
  omega

/-- A number of sixteen bits is its own low bits. -/
lemma low_natCast {n : ℕ} (h : n < 65536) : low n = n := by
  unfold low
  omega

/-- The low bits of a machine word are its value. -/
@[simp] lemma low_toNat (w : UInt16) : low w.toNat = w.toNat :=
  low_natCast w.toNat_lt

end Opcode

namespace Fields

variable (w : ℤ)

lemma val_tag_ofWord : (ofWord w).tag.val = Opcode.low w / 4096 := by
  have := Opcode.low_lt w
  simp only [ofWord, Fin.ofNat]
  omega

lemma val_x_ofWord : (ofWord w).x.val = Opcode.low w / 256 % 16 := rfl

lemma val_y_ofWord : (ofWord w).y.val = Opcode.low w / 16 % 16 := rfl

lemma val_n_ofWord : (ofWord w).n.val = Opcode.low w % 16 := rfl

lemma toNat_nn_ofWord : (ofWord w).nn.toNat = Opcode.low w % 256 := by
  simp [ofWord]

lemma val_nnn_ofWord : (ofWord w).nnn.val = Opcode.low w % 4096 := rfl

end Fields

/-! ## The decoder -/

namespace Instruction

/-- The instructions of the system family by their low byte. -/
lemma system?_eq_some_iff {nn : UInt8} {i : Instruction} :
    system? nn = some i ↔ nn = 0xE0 ∧ i = .clear ∨ nn = 0xEE ∧ i = .ret := by
  unfold system?
  split <;> simp_all [eq_comm]

/-- The instructions of the keypad family by their low byte. -/
lemma keypad?_eq_some_iff {x : Register} {nn : UInt8} {i : Instruction} :
    keypad? x nn = some i ↔ nn = 0x9E ∧ i = .skipKey x ∨ nn = 0xA1 ∧ i = .skipNoKey x := by
  unfold keypad?
  split <;> simp_all [eq_comm]

/-- The instructions of the miscellaneous family by their low byte. -/
lemma misc?_eq_some_iff {x : Register} {nn : UInt8} {i : Instruction} :
    misc? x nn = some i ↔
      nn = 0x07 ∧ i = .readDelay x ∨ nn = 0x0A ∧ i = .awaitKey x ∨ nn = 0x15 ∧ i = .setDelay x ∨
      nn = 0x18 ∧ i = .setSound x ∨ nn = 0x1E ∧ i = .addIndex x ∨ nn = 0x29 ∧ i = .glyph x ∨
      nn = 0x33 ∧ i = .storeDecimal x ∨ nn = 0x55 ∧ i = .storeRegisters x ∨
      nn = 0x65 ∧ i = .loadRegisters x := by
  unfold misc?
  split <;> simp_all [eq_comm]

/-- The word of the low bits that a decoded word has. -/
lemma low_of_decode? {w : ℤ} {i : Instruction} (h : decode? w = some i) :
    Opcode.low w = i.word := by
  have hlow := Opcode.low_lt w
  have htag := Fields.val_tag_ofWord w
  have hx := Fields.val_x_ofWord w
  have hy := Fields.val_y_ofWord w
  have hn := Fields.val_n_ofWord w
  have hnn := Fields.toNat_nn_ofWord w
  have hnnn := Fields.val_nnn_ofWord w
  unfold decode? at h
  generalize Fields.ofWord w = f at *
  obtain ⟨tag, x, y, n, nn, nnn⟩ := f
  dsimp only at htag hx hy hn hnn hnnn
  fin_cases tag <;> dsimp only [ofFields?] at h htag
  case «0» =>
    obtain ⟨hx0, h⟩ := Option.ite_none_right_eq_some.mp h
    rcases system?_eq_some_iff.mp h with ⟨rfl, rfl⟩ | ⟨rfl, rfl⟩ <;>
      simp [word] at htag hnn ⊢ <;> omega
  case «5» | «9» =>
    obtain ⟨hn0, h⟩ := Option.ite_none_right_eq_some.mp h
    cases h
    simp only [word]
    omega
  case «8» =>
    obtain ⟨op, hop, rfl⟩ := Option.map_eq_some_iff.mp h
    rw [ArithmeticOp.ofDigit?_eq_some_iff] at hop
    simp only [word]
    omega
  case «14» =>
    rcases keypad?_eq_some_iff.mp h with ⟨rfl, rfl⟩ | ⟨rfl, rfl⟩ <;>
      simp [word] at htag hnn ⊢ <;> omega
  case «15» =>
    rcases misc?_eq_some_iff.mp h with ⟨rfl, rfl⟩ | ⟨rfl, rfl⟩ | ⟨rfl, rfl⟩ | ⟨rfl, rfl⟩ |
      ⟨rfl, rfl⟩ | ⟨rfl, rfl⟩ | ⟨rfl, rfl⟩ | ⟨rfl, rfl⟩ | ⟨rfl, rfl⟩ <;>
      simp [word] at htag hnn ⊢ <;> omega
  all_goals
    cases h
    simp only [word]
    omega

/-- A word whose low bits are the word of an instruction decodes to it.

**Proof sketch.** The first digit of the low bits selects the family of the instruction, and the
other fields are its operands: all are remainders of quotients of the low bits. -/
lemma decode?_of_low {w : ℤ} {i : Instruction} (h : Opcode.low w = i.word) :
    decode? w = some i := by
  have htag := Fields.val_tag_ofWord w
  have hx := Fields.val_x_ofWord w
  have hy := Fields.val_y_ofWord w
  have hn := Fields.val_n_ofWord w
  have hnn := Fields.toNat_nn_ofWord w
  have hnnn := Fields.val_nnn_ofWord w
  unfold decode?
  generalize Fields.ofWord w = f at *
  obtain ⟨⟨tag, htag_lt⟩, x, y, n, nn, nnn⟩ := f
  dsimp only at htag hx hy hn hnn hnnn
  obtain rfl : tag = i.tag := by rw [htag, h, word_div]
  clear htag
  cases i <;>
    simp only [ofFields?, Instruction.tag, Fin.reduceFinMk, system?_eq_some_iff,
      keypad?_eq_some_iff, misc?_eq_some_iff, ArithmeticOp.ofDigit?_eq_some_iff,
      Option.ite_none_right_eq_some, Option.map_eq_some_iff, Option.some.injEq]
  case skipEqByte x' byte | skipNeByte x' byte | setByte x' byte | addByte x' byte |
      random x' byte =>
    have := byte.toNat_lt
    simp only [word] at h
    simp [Fin.ext_iff, ← UInt8.toNat_inj]
    omega
  case arithmetic op x' y' =>
    have := op.digit_lt
    simp only [word] at h
    simp [Fin.ext_iff]
    omega
  all_goals
    simp only [word] at h
    simp [Fin.ext_iff, ← UInt8.toNat_inj, -Fin.val_eq_zero_iff]
    omega

/-- A word decodes to an instruction exactly when its low sixteen bits are the word of that
instruction. -/
theorem decode?_eq_some_iff {w : ℤ} {i : Instruction} :
    decode? w = some i ↔ Opcode.low w = i.word :=
  ⟨low_of_decode?, decode?_of_low⟩

/-- The word of an instruction has sixteen bits. -/
lemma word_lt (i : Instruction) : i.word < 65536 := by
  have hdiv := i.word_div
  have htag := i.tag_lt
  omega

/-- Different instructions have different words. -/
lemma word_injective : Function.Injective word := by
  intro i j h
  have hi : decode? i.word = some i := decode?_of_low (Opcode.low_natCast i.word_lt)
  have hj : decode? j.word = some j := decode?_of_low (Opcode.low_natCast j.word_lt)
  rw [h] at hi
  exact Option.some.inj (hi.symm.trans hj)

/-! ## Membership in the opcode table -/

lemma isSome_system? (nn : UInt8) :
    (system? nn).isSome = Opcode.systemBytes.contains nn := by
  unfold system? Opcode.systemBytes
  split <;> simp_all

lemma isSome_keypad? (x : Register) (nn : UInt8) :
    (keypad? x nn).isSome = Opcode.keypadBytes.contains nn := by
  unfold keypad? Opcode.keypadBytes
  split <;> simp_all

lemma isSome_misc? (x : Register) (nn : UInt8) :
    (misc? x nn).isSome = Opcode.miscBytes.contains nn := by
  unfold misc? Opcode.miscBytes
  split <;> simp_all

lemma isSome_ofDigit? (n : Fin 16) :
    (ArithmeticOp.ofDigit? n).isSome = Opcode.arithmeticDigits.contains n := by
  revert n
  decide

/-- A word decodes exactly when it is in the opcode table.

**Proof sketch.** By the first digit. The decoder and the table look at the same further field of a
family, and the instructions of a family have just the digits or bytes that are listed for it. -/
theorem isSome_decode? (w : ℤ) : (decode? w).isSome = Opcode.isDefined w := by
  unfold decode? Opcode.isDefined
  generalize Fields.ofWord w = f
  obtain ⟨tag, x, y, n, nn, nnn⟩ := f
  fin_cases tag <;> dsimp only [ofFields?]
  case «0» =>
    rw [← isSome_system?]
    by_cases hx : x = 0 <;> simp [hx]
  case «5» | «9» =>
    by_cases hn : n = 0 <;> simp [hn]
  case «8» => exact Option.isSome_map.trans (isSome_ofDigit? n)
  case «14» => exact isSome_keypad? x nn
  case «15» => exact isSome_misc? x nn
  all_goals rfl

end Instruction

end Chip8
