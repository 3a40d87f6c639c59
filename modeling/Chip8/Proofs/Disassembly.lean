import Chip8.Proofs.Assembly
import Chip8.Proofs.Cycle

set_option autoImplicit false

/-!
# What a disassembly tells

Words with the same text do the same to every machine. Among the words of sixteen bits, only shifts
of one register in one direction share a text, since a shift does not look at its second register
and its text does not name it.

## Main definitions

* `Chip8.Opcode.SameShift` — two words shift the same register in the same direction.

## Main results

* `Chip8.Mnemonic.eq_or_canonical_eq_of_text_eq` — to which words equal texts belong.
* `Chip8.Opcode.text_determines` — what can be told from equal texts.
-/

namespace Chip8

/-! ## Shifts -/

namespace Instruction

/-- A shift does not look at its second register. -/
lemma run_canonical (i : Instruction) (s : Machine) : i.canonical.run s = i.run s := by
  cases i with
  | arithmetic op => cases op <;> rfl
  | _ => rfl

lemma canonical_cases (i : Instruction) :
    i.canonical = i ∨ ∃ op x y, (op = .shiftRight ∨ op = .shiftLeft) ∧
      i = .arithmetic op x y ∧ i.canonical = .arithmetic op x x := by
  cases i with
  | arithmetic op x y =>
    cases op with
    | shiftRight => exact .inr ⟨_, x, y, .inl rfl, rfl, rfl⟩
    | shiftLeft => exact .inr ⟨_, x, y, .inr rfl, rfl, rfl⟩
    | _ => exact .inl rfl
  | _ => exact .inl rfl

/-- Instructions that differ in what their texts leave out are shifts. -/
lemma eq_or_shifts_of_canonical_eq {i j : Instruction} (h : i.canonical = j.canonical) :
    i = j ∨ ∃ op x y y', (op = .shiftRight ∨ op = .shiftLeft) ∧
      i = .arithmetic op x y ∧ j = .arithmetic op x y' := by
  rcases i.canonical_cases with hi | ⟨op, x, y, hop, rfl, hi⟩
  · rcases j.canonical_cases with hj | ⟨op, x, y, hop, rfl, hj⟩
    · rw [hi, hj] at h
      exact .inl h
    · rw [hi, hj] at h
      exact .inr ⟨op, x, x, y, hop, h, rfl⟩
  · rcases j.canonical_cases with hj | ⟨op', x', y', -, rfl, hj⟩
    · rw [hi, hj] at h
      exact .inr ⟨op, x, y, x, hop, rfl, h.symm⟩
    · rw [hi, hj] at h
      cases h
      exact .inr ⟨op, x, y, y', hop, rfl, rfl⟩

end Instruction

/-! ## Words with the same text -/

namespace Machine

/-- Words with instructions that differ in nothing but what their texts leave out do the same. -/
lemma execute_eq_of_canonical_eq {w w' : ℤ} {i j : Instruction}
    (hi : Instruction.decode? w = some i) (hj : Instruction.decode? w' = some j)
    (h : i.canonical = j.canonical) (s : Machine) : s.execute w = s.execute w' := by
  have hattempt : s.attempt w = s.attempt w' := by
    unfold attempt
    rw [hi, hj]
    show i.run s = j.run s
    rw [← i.run_canonical s, h, j.run_canonical s]
  rw [execute, execute, hattempt]

end Machine

namespace Mnemonic

/-- Equal texts belong to one word without a text of its own, or to instructions that differ in
nothing but what their texts leave out. -/
lemma eq_or_canonical_eq_of_text_eq {w w' : ℤ} (h : text w = text w') :
    w = w' ∨ ∃ i j, Instruction.decode? w = some i ∧ Instruction.decode? w' = some j ∧
      i.canonical = j.canonical := by
  unfold text at h
  cases hw : known? w with
  | none =>
    cases hw' : known? w' with
    | none =>
      rw [hw, hw', Option.getD_none, Option.getD_none] at h
      exact .inl (Hex.padded_injective 4 ((String.append_right_inj _).mp h))
    | some t =>
      obtain ⟨j, -, rfl⟩ := exists_decode?_of_known? hw'
      rw [hw, hw', Option.getD_none, Option.getD_some] at h
      have hhead := head?_unknown w
      rw [h] at hhead
      exact absurd hhead j.head?_text_ne
  | some t =>
    obtain ⟨i, hi, rfl⟩ := exists_decode?_of_known? hw
    cases hw' : known? w' with
    | none =>
      rw [hw, hw', Option.getD_some, Option.getD_none] at h
      have hhead := head?_unknown w'
      rw [← h] at hhead
      exact absurd hhead i.head?_text_ne
    | some t =>
      obtain ⟨j, hj, rfl⟩ := exists_decode?_of_known? hw'
      rw [hw, hw'] at h
      exact .inr ⟨i, j, hi, hj, Instruction.canonical_eq_of_text_eq h⟩

/-- The word of an instruction has the text of the instruction. -/
lemma text_word (i : Instruction) : text i.word = i.text := by
  have hrange := i.word_lt
  have hplain : Plain i.word := .inl (by omega)
  rw [text, known?_of_plain hplain, Instruction.decode?_of_low (Opcode.low_natCast hrange)]
  rfl

end Mnemonic

namespace Opcode

/-- Two words shift the same register in the same direction. -/
def SameShift (w w' : ℤ) : Prop :=
  ∃ digit : ℤ, (digit = 0x6 ∨ digit = 0xE) ∧ ∃ x y y' : Register,
    w = 0x8000 + 0x100 * x.val + 0x10 * y.val + digit ∧
      w' = 0x8000 + 0x100 * x.val + 0x10 * y'.val + digit

/-- A word of sixteen bits is the word of the instruction that it decodes to. -/
lemma eq_word_of_decode? {w : ℤ} {i : Instruction} (h : Instruction.decode? w = some i)
    (hw : 0 ≤ w ∧ w < 65536) : w = i.word := by
  have hlow := Instruction.low_of_decode? h
  unfold low at hlow
  omega

lemma sameShift_of_decode? {w w' : ℤ} {op : ArithmeticOp} {x y y' : Register}
    (hop : op = .shiftRight ∨ op = .shiftLeft) (hw : 0 ≤ w ∧ w < 65536)
    (hw' : 0 ≤ w' ∧ w' < 65536) (hi : Instruction.decode? w = some (.arithmetic op x y))
    (hj : Instruction.decode? w' = some (.arithmetic op x y')) : SameShift w w' := by
  have hword := eq_word_of_decode? hi hw
  have hword' := eq_word_of_decode? hj hw'
  rcases hop with rfl | rfl
  · refine ⟨0x6, .inl rfl, x, y, y', ?_, ?_⟩
    · simpa [Instruction.word, ArithmeticOp.digit] using hword
    · simpa [Instruction.word, ArithmeticOp.digit] using hword'
  · refine ⟨0xE, .inr rfl, x, y, y', ?_, ?_⟩
    · simpa [Instruction.word, ArithmeticOp.digit] using hword
    · simpa [Instruction.word, ArithmeticOp.digit] using hword'

/-- Words that shift the same register in the same direction have the same text. -/
lemma SameShift.text_eq {w w' : ℤ} (h : SameShift w w') : Mnemonic.text w = Mnemonic.text w' := by
  obtain ⟨digit, hdigit, x, y, y', rfl, rfl⟩ := h
  have htext : ∀ op, op = .shiftRight ∨ op = .shiftLeft →
      Mnemonic.text (Instruction.arithmetic op x y).word =
        Mnemonic.text (Instruction.arithmetic op x y').word := by
    intro op hop
    have hcanonical : (Instruction.arithmetic op x y).canonical =
        (Instruction.arithmetic op x y').canonical := by
      rcases hop with rfl | rfl <;> rfl
    rw [Mnemonic.text_word, Mnemonic.text_word, ← Instruction.text_canonical, hcanonical,
      Instruction.text_canonical]
  rcases hdigit with rfl | rfl
  · exact htext .shiftRight (.inl rfl)
  · exact htext .shiftLeft (.inr rfl)

/-- **Words with the same text do the same** to every machine, whatever their size and sign. Two
words that are written in sixteen bits have the same text exactly if they are equal or shift the
same register in the same direction.

**Proof sketch.** A word without a text of its own is written as its numeral, which stands for no
other word. Otherwise the text is that of the instruction, which is read back but for the second
register of a shift; no shift looks at that register. -/
theorem text_determines (w w' : ℤ) :
    (Mnemonic.text w = Mnemonic.text w' → ∀ s : Machine, s.execute w = s.execute w') ∧
    (0 ≤ w ∧ w < 65536 → 0 ≤ w' ∧ w' < 65536 →
      (Mnemonic.text w = Mnemonic.text w' ↔ w = w' ∨ SameShift w w')) := by
  constructor
  · intro h s
    rcases Mnemonic.eq_or_canonical_eq_of_text_eq h with rfl | ⟨i, j, hi, hj, hij⟩
    · rfl
    · exact Machine.execute_eq_of_canonical_eq hi hj hij s
  · intro hw hw'
    constructor
    · intro h
      rcases Mnemonic.eq_or_canonical_eq_of_text_eq h with rfl | ⟨i, j, hi, hj, hij⟩
      · exact .inl rfl
      · rcases Instruction.eq_or_shifts_of_canonical_eq hij with
          rfl | ⟨op, x, y, y', hop, rfl, rfl⟩
        · exact .inl ((eq_word_of_decode? hi hw).trans (eq_word_of_decode? hj hw').symm)
        · exact .inr (sameShift_of_decode? hop hw hw' hi hj)
    · rintro (rfl | h)
      · rfl
      · exact h.text_eq

/-- `8126` and `8136` shift the same register, and do the same to every machine. -/
theorem text_determines_shifts :
    Mnemonic.text 0x8126 = Mnemonic.text 0x8136 ∧
      ∀ s : Machine, s.execute 0x8126 = s.execute 0x8136 := by
  have hshift : SameShift 0x8126 0x8136 := ⟨0x6, .inl rfl, 1, 2, 3, rfl, rfl⟩
  have htext := ((text_determines 0x8126 0x8136).2 (by decide) (by decide)).mpr (.inr hshift)
  exact ⟨htext, (text_determines 0x8126 0x8136).1 htext⟩

end Opcode

end Chip8
