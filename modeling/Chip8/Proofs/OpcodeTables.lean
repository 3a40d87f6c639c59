import Chip8.Proofs.Assembly
import Chip8.Proofs.Cycle

set_option autoImplicit false

/-!
# The three tables of opcodes

The opcode table is written down three times: as the membership test of a word, as the instructions
that words are executed as, and as the mnemonics. All three look at the fields of a word, which are
cut out of its low sixteen bits, and they leave out the same words. Only the mnemonics of the system
family look at more than the fields.

## Main definitions

* `Chip8.Fields.AreMasks` — fields are cut out of a word by masks.
* `Chip8.Opcode.TablesAgree` — the three tables say the same of a word.

## Main results

* `Chip8.Fields.areMasks_ofWord` — the fields of a word are cut out of its two's complement.
* `Chip8.Machine.faultCode_execute_iff` — which words spring the trap of undefined words.
* `Chip8.Opcode.tablesAgree` — the three tables agree on every word.
-/

namespace Chip8

/-! ## Fields as masks -/

/-- Fields are cut out of a word of thirty-two bits by masks. -/
structure Fields.AreMasks (f : Fields) (w : BitVec 32) : Prop where
  tag : f.tag.val = ((w &&& 0xF000) >>> 12).toNat
  x : f.x.val = ((w &&& 0x0F00) >>> 8).toNat
  y : f.y.val = ((w &&& 0x00F0) >>> 4).toNat
  n : f.n.val = (w &&& 0x000F).toNat
  nn : f.nn.toNat = (w &&& 0x00FF).toNat
  nnn : f.nnn.val = (w &&& 0x0FFF).toNat

namespace Fields

/-- A mask further up in a number, moved down, leaves a digit of it. -/
lemma shiftRight_and_mask (n shift bits : ℕ) :
    (n &&& (2 ^ bits - 1) <<< shift) >>> shift = n / 2 ^ shift % 2 ^ bits := by
  rw [Nat.shiftRight_and_distrib, Nat.shiftLeft_shiftRight, Nat.and_two_pow_sub_one_eq_mod,
    Nat.shiftRight_eq_div_pow]

/-- **The fields of a word are cut out of its two's complement.** -/
theorem areMasks_ofWord (w : ℤ) : (ofWord w).AreMasks (BitVec.ofInt 32 w) := by
  have hlow : Opcode.low w = (BitVec.ofInt 32 w).toNat % 65536 := by
    rw [BitVec.toNat_ofInt, Opcode.low]
    omega
  have htag := shiftRight_and_mask (BitVec.ofInt 32 w).toNat 12 4
  have hx := shiftRight_and_mask (BitVec.ofInt 32 w).toNat 8 4
  have hy := shiftRight_and_mask (BitVec.ofInt 32 w).toNat 4 4
  have hn := Nat.and_two_pow_sub_one_eq_mod (BitVec.ofInt 32 w).toNat 4
  have hnn := Nat.and_two_pow_sub_one_eq_mod (BitVec.ofInt 32 w).toNat 8
  have hnnn := Nat.and_two_pow_sub_one_eq_mod (BitVec.ofInt 32 w).toNat 12
  constructor
  case tag =>
    show _ = ((BitVec.ofInt 32 w).toNat &&& (2 ^ 4 - 1) <<< 12) >>> 12
    rw [val_tag_ofWord, htag]
    omega
  case x =>
    show _ = ((BitVec.ofInt 32 w).toNat &&& (2 ^ 4 - 1) <<< 8) >>> 8
    rw [val_x_ofWord, hx]
    omega
  case y =>
    show _ = ((BitVec.ofInt 32 w).toNat &&& (2 ^ 4 - 1) <<< 4) >>> 4
    rw [val_y_ofWord, hy]
    omega
  case n =>
    show _ = (BitVec.ofInt 32 w).toNat &&& (2 ^ 4 - 1)
    rw [val_n_ofWord, hn]
    omega
  case nn =>
    show _ = (BitVec.ofInt 32 w).toNat &&& (2 ^ 8 - 1)
    rw [toNat_nn_ofWord, hnn]
    omega
  case nnn =>
    show _ = (BitVec.ofInt 32 w).toNat &&& (2 ^ 12 - 1)
    rw [val_nnn_ofWord, hnnn]
    omega

/-- Only the low sixteen bits of a word count. -/
lemma ofWord_emod (w : ℤ) : ofWord (w % 65536) = ofWord w := by
  have hlow : Opcode.low (w % 65536) = Opcode.low w := by
    unfold Opcode.low
    omega
  rw [ofWord, ofWord, hlow]

end Fields

/-! ## The traps of words -/

namespace Machine

lemma execute_emod (s : Machine) (w : ℤ) : s.execute (w % 65536) = s.execute w := by
  have hdecode : Instruction.decode? (w % 65536) = Instruction.decode? w :=
    congrArg Instruction.ofFields? (Fields.ofWord_emod w)
  have hattempt : s.attempt (w % 65536) = s.attempt w := by rw [attempt, hdecode, attempt]
  rw [execute, hattempt, execute]

lemma faultCode_mark (s : Machine) (trap : Trap) : (s.mark trap).faultCode = trap.code := by
  unfold mark faultCode
  cases s.fault <;> rfl

/-- **Executing a word outside the opcode table springs the trap of undefined words**, and no other
word springs it. -/
theorem faultCode_execute_iff {s : Machine} (h : s.fault = none) (w : ℤ) :
    (s.execute w).faultCode = 1 ↔ Opcode.isDefined w = false := by
  rw [← Instruction.isSome_decode?, execute, attempt]
  cases hd : Instruction.decode? w with
  | none => simp [faultCode_mark, Trap.code]
  | some i =>
    cases hrun : i.run s with
    | ok s' =>
      have hhealthy : s'.fault = none := (fault_of_run hrun).trans h
      simp [hrun, faultCode, hhealthy]
    | error trap =>
      rcases Instruction.run_eq_error_iff.mp hrun with ⟨rfl, -⟩ | ⟨rfl, -⟩
      · simp [hrun, faultCode_mark, Trap.code]
      · simp [hrun, faultCode_mark, Trap.code]

end Machine

/-! ## Agreement -/

namespace Opcode

/-- The three tables say the same of a word. -/
structure TablesAgree (w : ℤ) : Prop where
  /-- The fields of the word are masks of its two's complement. -/
  fields : (Fields.ofWord w).AreMasks (BitVec.ofInt 32 w)
  /-- Membership is a matter of the low sixteen bits. -/
  isDefined_low : isDefined w = isDefined (w % 65536)
  /-- Execution is a matter of the low sixteen bits. -/
  execute_low : ∀ s : Machine, s.execute w = s.execute (w % 65536)
  /-- A healthy machine traps on the word as an undefined one exactly if it is not a member. -/
  execute_undefined : ∀ s : Machine, s.fault = none →
    ((s.execute w).faultCode = 1 ↔ isDefined w = false)
  /-- The word is written as question marks and its numeral exactly if it is not a member. -/
  text_undefined : (0 ≤ w ∧ w < 65536) ∨ (Fields.ofWord w).tag.val ≠ 0 →
    (Mnemonic.text w = "??? 0x" ++ Hex.padded 4 w ↔ isDefined w = false)
  /-- A member has the text of its low sixteen bits. -/
  text_low : (0 ≤ w ∧ w < 65536) ∨ (Fields.ofWord w).tag.val ≠ 0 → isDefined w = true →
    Mnemonic.text w = Mnemonic.text (w % 65536)

lemma isDefined_emod (w : ℤ) : isDefined (w % 65536) = isDefined w := by
  rw [isDefined, Fields.ofWord_emod, isDefined]

/-- A word that has the text of its fields is known to the table of mnemonics exactly if it is a
member. -/
lemma known?_eq_none_iff {w : ℤ} (h : Mnemonic.Plain w) :
    Mnemonic.known? w = none ↔ isDefined w = false := by
  rw [Mnemonic.known?_of_plain h, ← Instruction.isSome_decode?]
  cases Instruction.decode? w <;> simp

lemma text_emod {w : ℤ} (h : Mnemonic.Plain w) (hdefined : isDefined w = true) :
    Mnemonic.text w = Mnemonic.text (w % 65536) := by
  have hlow : Mnemonic.Plain (w % 65536) := .inl (by omega)
  have hknown : Mnemonic.known? (w % 65536) = Mnemonic.known? w := by
    rw [Mnemonic.known?_of_plain hlow, Mnemonic.known?_of_plain h, Instruction.decode?,
      Fields.ofWord_emod, Instruction.decode?]
  cases hw : Mnemonic.known? w with
  | none =>
    rw [(known?_eq_none_iff h).mp hw] at hdefined
    cases hdefined
  | some t => rw [Mnemonic.text, Mnemonic.text, hknown, hw, Option.getD_some, Option.getD_some]

/-- **The three tables agree on every word**, negative ones and ones of more than sixteen bits
included. -/
theorem tablesAgree (w : ℤ) : TablesAgree w where
  fields := Fields.areMasks_ofWord w
  isDefined_low := (isDefined_emod w).symm
  execute_low s := (s.execute_emod w).symm
  execute_undefined _ h := Machine.faultCode_execute_iff h w
  text_undefined h := Mnemonic.text_eq_unknown_iff.trans (known?_eq_none_iff h)
  text_low h hdefined := text_emod h hdefined

end Opcode

end Chip8
