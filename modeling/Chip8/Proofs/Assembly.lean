import Chip8.Mnemonic
import Chip8.Proofs.Decoding
import Chip8.Proofs.Numerals
import Chip8.Text.Numeral

set_option autoImplicit false

/-!
# Assembly text

The text of an instruction is a name and the operands behind it. It can be read back: without its
commas, the text falls into words at the blanks, each word is the name or one operand, and the name
and the operands belong to one instruction only. Shifts are the exception, since their second
register is not written.

The table of mnemonics writes these texts. It looks at the whole word in the system family and at
the fields elsewhere, so a word of that family has its text only if it is written in sixteen bits.

## Main definitions

* `Chip8.Assembly.Operand` — what stands behind the name.
* `Chip8.Instruction.name`, `Chip8.Instruction.operands`, `Chip8.Instruction.text` — the text of an
  instruction.
* `Chip8.Instruction.canonical` — an instruction without what its text leaves out.
* `Chip8.Assembly.instruction?` — the instruction of a name and operands.

## Main results

* `Chip8.Instruction.canonical_eq_of_text_eq` — the text of an instruction can be read back.
* `Chip8.Mnemonic.known?_of_plain`, `Chip8.Mnemonic.known?_of_not_plain` — the table of mnemonics
  writes the texts of the instructions that words decode to.
-/

namespace Chip8

/-! ## Operands -/

namespace Assembly

/-- A part of the machine that an operand names. -/
inductive Place where
  /-- The index register. -/
  | index
  /-- The memory at the index register. -/
  | indexed
  /-- The timer that programs read. -/
  | delayTimer
  /-- The timer that sounds the buzzer. -/
  | soundTimer
  /-- The key that is pressed next. -/
  | key
  /-- The glyph of a digit. -/
  | glyph
  /-- The decimal digits of a byte. -/
  | decimal

/-- What stands behind the name of an instruction. -/
inductive Operand where
  /-- A general-purpose register. -/
  | register (x : Register)
  /-- A byte. -/
  | byte (nn : UInt8)
  /-- An address. -/
  | address (nnn : Fin 4096)
  /-- A number of rows. -/
  | count (n : Fin 16)
  /-- A part of the machine. -/
  | place (p : Place)

/-- How a part of the machine is written. -/
@[simp] def Place.text : Place → String
  | index => "I"
  | indexed => "[I]"
  | delayTimer => "DT"
  | soundTimer => "ST"
  | key => "K"
  | glyph => "F"
  | decimal => "B"

/-- How an operand is written. -/
@[simp] def Operand.text : Operand → String
  | register x => Mnemonic.register x
  | byte nn => Mnemonic.byte nn
  | address nnn => Mnemonic.address nnn
  | count n => toString n.val
  | place p => p.text

/-- The part of the machine that characters name. -/
def place? (chars : List Char) : Option Place :=
  [Place.index, .indexed, .delayTimer, .soundTimer, .key, .glyph, .decimal].find?
    fun p => p.text.toList = chars

/-- The operand that characters are. A byte has two digits and an address has three. -/
def operand? (chars : List Char) : Option Operand :=
  match chars with
  | 'V' :: digits =>
    if h : Hex.value digits < 16 then some (.register ⟨Hex.value digits, h⟩) else none
  | '0' :: 'x' :: digits =>
    if digits.length = 2 then some (.byte (UInt8.ofNat (Hex.value digits)))
    else if h : Hex.value digits < 4096 then some (.address ⟨Hex.value digits, h⟩) else none
  | _ =>
    match place? chars with
    | some p => some (.place p)
    | none => if h : Numeral.value chars < 16 then some (.count ⟨Numeral.value chars, h⟩) else none

lemma toList_register (x : Register) :
    (Mnemonic.register x).toList = 'V' :: Hex.paddedChars 1 x.val := by
  simp [Mnemonic.register, Hex.padded]

lemma toList_byte (nn : UInt8) :
    (Mnemonic.byte nn).toList = '0' :: 'x' :: Hex.paddedChars 2 nn.toNat := by
  simp [Mnemonic.byte, Hex.padded]

lemma toList_address (nnn : Fin 4096) :
    (Mnemonic.address nnn).toList = '0' :: 'x' :: Hex.paddedChars 3 nnn.val := by
  simp [Mnemonic.address, Hex.padded]

/-- **An operand can be read back.** -/
lemma operand?_text (o : Operand) : operand? o.text.toList = some o := by
  cases o with
  | register x =>
    rw [Operand.text, toList_register]
    simp [operand?, Hex.value_paddedChars]
  | byte nn =>
    have hlength := Hex.length_paddedChars (by decide) (show nn.toNat < 16 ^ 2 from nn.toNat_lt)
    rw [Operand.text, toList_byte]
    simp [operand?, hlength, Hex.value_paddedChars]
  | address nnn =>
    have hlength := Hex.length_paddedChars (by decide) (show nnn.val < 16 ^ 3 from nnn.isLt)
    rw [Operand.text, toList_address]
    simp [operand?, hlength, Hex.value_paddedChars]
  | count n =>
    have hall : ∀ n : Fin 16, operand? (toString n.val).toList = some (.count n) := by
      intro n
      fin_cases n <;> rfl
    exact hall n
  | place p => cases p <;> rfl

lemma text_injective : Function.Injective fun o : Operand => o.text.toList := by
  intro o o' h
  have hread := operand?_text o
  rw [show o.text.toList = o'.text.toList from h, operand?_text o'] at hread
  exact (Option.some.inj hread).symm

/-- Operands hold neither blanks nor commas, at which a text is taken apart. -/
lemma not_mem_text {c : Char} (hc : c = ' ' ∨ c = ',') (o : Operand) : c ∉ o.text.toList := by
  have hnumeral : ∀ width n : ℕ, c ∉ Hex.paddedChars width n := by
    intro width n h
    have hmem := Hex.mem_alphabet_of_mem_paddedChars h
    rcases hc with rfl | rfl
    · exact absurd hmem (by decide)
    · exact absurd hmem (by decide)
  have hmarks : c ≠ 'V' ∧ c ≠ '0' ∧ c ≠ 'x' := by
    rcases hc with rfl | rfl <;> decide
  cases o with
  | register x =>
    rw [Operand.text, toList_register]
    simp [hmarks, hnumeral]
  | byte nn =>
    rw [Operand.text, toList_byte]
    simp [hmarks, hnumeral]
  | address nnn =>
    rw [Operand.text, toList_address]
    simp [hmarks, hnumeral]
  | count n =>
    have hall : ∀ n : Fin 16, ' ' ∉ (toString n.val).toList ∧ ',' ∉ (toString n.val).toList := by
      decide
    rcases hc with rfl | rfl
    · exact (hall n).1
    · exact (hall n).2
  | place p => rcases hc with rfl | rfl <;> cases p <;> decide

/-- Operands as they stand in a text, with a comma and a blank between any two. -/
@[simp] def listing : List Operand → String
  | [] => ""
  | [o] => o.text
  | o :: rest => o.text ++ ", " ++ listing rest

/-- Without their commas, operands stand one after the other with blanks in between. -/
lemma filter_listing (operands : List Operand) :
    (listing operands).toList.filter (· ≠ ',') =
      [' '].intercalate (operands.map fun o => o.text.toList) := by
  have hkeep : ∀ o : Operand, o.text.toList.filter (· ≠ ',') = o.text.toList := by
    intro o
    rw [List.filter_eq_self]
    intro c hc
    have hcomma := not_mem_text (.inr rfl) o
    simp only [decide_eq_true_eq]
    rintro rfl
    exact hcomma hc
  induction operands with
  | nil => rfl
  | cons o rest ih =>
    cases rest with
    | nil => simpa [listing, List.intercalate] using hkeep o
    | cons o' rest =>
      have hcomma : (", ".toList).filter (· ≠ ',') = [' '] := by decide
      simp only [List.map_cons] at ih ⊢
      rw [listing, String.toList_append, String.toList_append, List.filter_append,
        List.filter_append, hkeep, hcomma, ih, List.intercalate_cons_cons]
      exact nofun

/-- The instruction of a name and operands. The second register of a shift, which its text
leaves out, is taken to be the first. -/
def instruction? (name : String) (operands : List Operand) : Option Instruction :=
  match name, operands with
  | "CLS", [] => some .clear
  | "RET", [] => some .ret
  | "JP", [.address target] => some (.jump target)
  | "JP", [.register _, .address target] => some (.jumpOffset target)
  | "CALL", [.address target] => some (.call target)
  | "SE", [.register x, .byte byte] => some (.skipEqByte x byte)
  | "SE", [.register x, .register y] => some (.skipEqRegister x y)
  | "SNE", [.register x, .byte byte] => some (.skipNeByte x byte)
  | "SNE", [.register x, .register y] => some (.skipNeRegister x y)
  | "LD", [.register x, .byte byte] => some (.setByte x byte)
  | "LD", [.register x, .register y] => some (.arithmetic .copy x y)
  | "LD", [.place .index, .address target] => some (.setIndex target)
  | "LD", [.register x, .place .delayTimer] => some (.readDelay x)
  | "LD", [.register x, .place .key] => some (.awaitKey x)
  | "LD", [.place .delayTimer, .register x] => some (.setDelay x)
  | "LD", [.place .soundTimer, .register x] => some (.setSound x)
  | "LD", [.place .glyph, .register x] => some (.glyph x)
  | "LD", [.place .decimal, .register x] => some (.storeDecimal x)
  | "LD", [.place .indexed, .register x] => some (.storeRegisters x)
  | "LD", [.register x, .place .indexed] => some (.loadRegisters x)
  | "ADD", [.register x, .byte byte] => some (.addByte x byte)
  | "ADD", [.register x, .register y] => some (.arithmetic .add x y)
  | "ADD", [.place .index, .register x] => some (.addIndex x)
  | "OR", [.register x, .register y] => some (.arithmetic .or x y)
  | "AND", [.register x, .register y] => some (.arithmetic .and x y)
  | "XOR", [.register x, .register y] => some (.arithmetic .xor x y)
  | "SUB", [.register x, .register y] => some (.arithmetic .sub x y)
  | "SUBN", [.register x, .register y] => some (.arithmetic .subFrom x y)
  | "SHR", [.register x] => some (.arithmetic .shiftRight x x)
  | "SHL", [.register x] => some (.arithmetic .shiftLeft x x)
  | "RND", [.register x, .byte mask] => some (.random x mask)
  | "DRW", [.register x, .register y, .count height] => some (.draw x y height)
  | "SKP", [.register x] => some (.skipKey x)
  | "SKNP", [.register x] => some (.skipNoKey x)
  | _, _ => none

end Assembly

/-! ## Texts -/

/-- The name of an arithmetic operation. -/
def ArithmeticOp.name : ArithmeticOp → String
  | copy => "LD"
  | or => "OR"
  | and => "AND"
  | xor => "XOR"
  | add => "ADD"
  | sub => "SUB"
  | shiftRight => "SHR"
  | subFrom => "SUBN"
  | shiftLeft => "SHL"

namespace Instruction

open Assembly

/-- The name of an instruction. -/
@[simp] def name : Instruction → String
  | clear => "CLS"
  | ret => "RET"
  | jump _ | jumpOffset _ => "JP"
  | call _ => "CALL"
  | skipEqByte .. | skipEqRegister .. => "SE"
  | skipNeByte .. | skipNeRegister .. => "SNE"
  | addByte .. | addIndex _ => "ADD"
  | arithmetic op _ _ => op.name
  | random .. => "RND"
  | draw .. => "DRW"
  | skipKey _ => "SKP"
  | skipNoKey _ => "SKNP"
  | _ => "LD"

/-- The operands of an instruction as they are written. Shifts name one register only. -/
@[simp] def operands : Instruction → List Operand
  | clear | ret => []
  | jump target | call target => [.address target]
  | jumpOffset target => [.register .offset, .address target]
  | skipEqByte x byte | skipNeByte x byte | setByte x byte | addByte x byte | random x byte =>
    [.register x, .byte byte]
  | skipEqRegister x y | skipNeRegister x y => [.register x, .register y]
  | arithmetic .shiftRight x _ | arithmetic .shiftLeft x _ => [.register x]
  | arithmetic _ x y => [.register x, .register y]
  | setIndex target => [.place .index, .address target]
  | draw x y height => [.register x, .register y, .count height]
  | skipKey x | skipNoKey x => [.register x]
  | readDelay x => [.register x, .place .delayTimer]
  | awaitKey x => [.register x, .place .key]
  | setDelay x => [.place .delayTimer, .register x]
  | setSound x => [.place .soundTimer, .register x]
  | addIndex x => [.place .index, .register x]
  | glyph x => [.place .glyph, .register x]
  | storeDecimal x => [.place .decimal, .register x]
  | storeRegisters x => [.place .indexed, .register x]
  | loadRegisters x => [.register x, .place .indexed]

/-- The text of an instruction. -/
def text (i : Instruction) : String :=
  match i.operands with
  | [] => i.name
  | operands => i.name ++ " " ++ listing operands

/-- The instruction without what its text leaves out, which is the second register of a shift. -/
def canonical : Instruction → Instruction
  | arithmetic .shiftRight x _ => arithmetic .shiftRight x x
  | arithmetic .shiftLeft x _ => arithmetic .shiftLeft x x
  | i => i

lemma instruction?_name_operands (i : Instruction) :
    instruction? i.name i.operands = some i.canonical := by
  cases i with
  | arithmetic op => cases op <;> rfl
  | _ => rfl

lemma text_canonical (i : Instruction) : i.canonical.text = i.text := by
  cases i with
  | arithmetic op => cases op <;> rfl
  | _ => rfl

/-- A name is written in letters. -/
lemma name_letters (i : Instruction) :
    i.name.toList ≠ [] ∧ ∀ c ∈ i.name.toList, c.isUpper = true := by
  cases i with
  | arithmetic op => cases op <;> simp [name, ArithmeticOp.name]
  | _ => simp [name]

lemma not_mem_name {c : Char} (hc : c.isUpper = false) (i : Instruction) : c ∉ i.name.toList := by
  intro h
  rw [i.name_letters.2 c h] at hc
  cases hc

/-- Without its commas, a text falls into its name and its operands at the blanks. -/
lemma splitOn_text (i : Instruction) :
    (i.text.toList.filter (· ≠ ',')).splitOn ' ' =
      i.name.toList :: i.operands.map fun o => o.text.toList := by
  have hname : i.name.toList.filter (· ≠ ',') = i.name.toList := by
    rw [List.filter_eq_self]
    intro c hc
    simp only [decide_eq_true_eq]
    rintro rfl
    exact not_mem_name (by decide) i hc
  have hwords : i.text.toList.filter (· ≠ ',') =
      [' '].intercalate (i.name.toList :: i.operands.map fun o => o.text.toList) := by
    rw [text]
    cases ho : i.operands with
    | nil => simpa [List.intercalate] using hname
    | cons o rest =>
      have hlisting := filter_listing (o :: rest)
      have hblank : (" ".toList).filter (· ≠ ',') = [' '] := by decide
      simp only [List.map_cons] at hlisting ⊢
      rw [String.toList_append, String.toList_append, List.filter_append, List.filter_append,
        hname, hblank, hlisting, List.intercalate_cons_cons]
  rw [hwords, List.splitOn_intercalate]
  · intro word hword
    rcases List.mem_cons.mp hword with rfl | hword
    · exact not_mem_name (by decide) i
    · obtain ⟨o, -, rfl⟩ := List.mem_map.mp hword
      exact not_mem_text (.inl rfl) o
  · exact nofun

/-- **The text of an instruction can be read back**, but for the second register of a shift.

**Proof sketch.** Equal texts fall into the same words. Each operand is read back from its word, and
the instruction from its name and its operands. -/
theorem canonical_eq_of_text_eq {i j : Instruction} (h : i.text = j.text) :
    i.canonical = j.canonical := by
  have hwords := splitOn_text i
  rw [h, splitOn_text j, List.cons.injEq] at hwords
  obtain ⟨hname, hoperands⟩ := hwords
  have hoperands' : i.operands = j.operands :=
    List.map_injective_iff.mpr text_injective hoperands.symm
  have hi := instruction?_name_operands i
  rw [← String.toList_inj.mp hname, hoperands', instruction?_name_operands j] at hi
  exact (Option.some.inj hi).symm

/-- No text begins like that of a word without a text of its own. -/
lemma head?_text_ne (i : Instruction) : i.text.toList.head? ≠ some '?' := by
  have hhead : i.text.toList.head? = i.name.toList.head? := by
    rw [text]
    split
    · rfl
    · rw [String.toList_append, String.toList_append, List.append_assoc,
        List.head?_append_of_ne_nil _ i.name_letters.1]
  rw [hhead]
  intro h
  exact not_mem_name (by decide) i (List.mem_of_mem_head? h)

end Instruction

/-! ## The table of mnemonics -/

namespace Mnemonic

/-- Whether a word has the text of its fields: it is written in sixteen bits, or it is outside the
system family, whose texts belong to the words `00E0` and `00EE` as a whole. -/
def Plain (w : ℤ) : Prop :=
  (0 ≤ w ∧ w < 65536) ∨ (Fields.ofWord w).tag.val ≠ 0

lemma known?_of_tag_eq_zero {w : ℤ} (htag : (Fields.ofWord w).tag = 0) :
    known? w = if w = 0x00E0 then some "CLS" else if w = 0x00EE then some "RET" else none := by
  unfold known?
  simp only [htag]

/-- The instructions of the system family are those without operands. -/
lemma eq_of_tag_eq_zero {i : Instruction} (h : i.tag = 0) : i = .clear ∨ i = .ret := by
  cases i with
  | clear => exact .inl rfl
  | ret => exact .inr rfl
  | _ => cases h

lemma arithmetic?_eq (x y : Register) (n : Fin 16) :
    arithmetic? x y n =
      ((ArithmeticOp.ofDigit? n).map fun op => .arithmetic op x y).map Instruction.text := by
  unfold arithmetic? ArithmeticOp.ofDigit?
  split <;> simp [Instruction.text, ArithmeticOp.name, ← String.toList_inj]

lemma misc?_eq (x : Register) (nn : UInt8) :
    misc? x nn = (Instruction.misc? x nn).map Instruction.text := by
  unfold misc? Instruction.misc?
  split <;> simp [Instruction.text, ← String.toList_inj]

lemma known?_of_tag_eq_keypad {w : ℤ} (htag : (Fields.ofWord w).tag = 0xE) :
    known? w = (Instruction.decode? w).map Instruction.text := by
  unfold known? Instruction.decode? Instruction.ofFields? Instruction.keypad?
  simp only [htag]
  generalize (Fields.ofWord w).nn = nn
  split <;> simp [Instruction.text]

/-- A word of another family has the text of its instruction.

**Proof sketch.** By the first digit. The table and the decoder look at the same further field of a
family. -/
lemma known?_of_tag_ne_zero {w : ℤ} (htag : (Fields.ofWord w).tag ≠ 0) :
    known? w = (Instruction.decode? w).map Instruction.text := by
  by_cases hkeypad : (Fields.ofWord w).tag = 0xE
  · exact known?_of_tag_eq_keypad hkeypad
  unfold known? Instruction.decode?
  generalize Fields.ofWord w = f at *
  obtain ⟨tag, x, y, n, nn, nnn⟩ := f
  fin_cases tag <;> dsimp only [Instruction.ofFields?] at htag hkeypad ⊢
  case «0» => exact absurd rfl htag
  case «5» | «9» =>
    by_cases hn : n = 0 <;> simp [hn, Instruction.text, ← String.toList_inj]
  case «8» => exact arithmetic?_eq x y n
  case «11» =>
    have hoffset : register .offset = "V0" := by
      rw [← String.toList_inj, Assembly.toList_register]
      simp [Register.offset, Hex.paddedChars, Hex.digits, Hex.digit]
    simp [hoffset, Instruction.text, ← String.toList_inj]
  case «14» => exact absurd rfl hkeypad
  case «15» => exact misc?_eq x nn
  all_goals simp [Instruction.text, ← String.toList_inj]

/-- **The table of mnemonics writes the texts of instructions** for the words that have the text of
their fields. -/
theorem known?_of_plain {w : ℤ} (h : Plain w) :
    known? w = (Instruction.decode? w).map Instruction.text := by
  by_cases htag : (Fields.ofWord w).tag = 0
  · have hrange : 0 ≤ w ∧ w < 65536 := h.resolve_right fun hne => hne (congrArg Fin.val htag)
    rw [known?_of_tag_eq_zero htag]
    split_ifs with hclear hret
    · rw [hclear]
      rfl
    · rw [hret]
      rfl
    · cases hd : Instruction.decode? w with
      | none => rfl
      | some i =>
        have hword := Instruction.decode?_eq_some_iff.mp hd
        have hfirst : i.tag = 0 := by
          rw [← i.word_div, ← hword, ← Fields.val_tag_ofWord, htag]
          rfl
        unfold Opcode.low at hword
        rcases eq_of_tag_eq_zero hfirst with rfl | rfl
        · simp only [Instruction.word] at hword
          omega
        · simp only [Instruction.word] at hword
          omega
  · exact known?_of_tag_ne_zero htag

/-- A word of the system family that is not written in sixteen bits has no text. -/
theorem known?_of_not_plain {w : ℤ} (h : ¬Plain w) : known? w = none := by
  obtain ⟨hrange, htag⟩ := not_or.mp h
  rw [known?_of_tag_eq_zero (Fin.ext (not_not.mp htag)), if_neg (by omega), if_neg (by omega)]

/-- What the table writes is the text of the instruction that the word decodes to. -/
lemma exists_decode?_of_known? {w : ℤ} {t : String} (h : known? w = some t) :
    ∃ i, Instruction.decode? w = some i ∧ i.text = t := by
  by_cases hplain : Plain w
  · rw [known?_of_plain hplain] at h
    exact Option.map_eq_some_iff.mp h
  · rw [known?_of_not_plain hplain] at h
    cases h

/-- The text of a word without a text of its own begins with a question mark. -/
lemma head?_unknown (w : ℤ) : ("??? 0x" ++ Hex.padded 4 w).toList.head? = some '?' := by
  rw [String.toList_append]
  rfl

/-- A word is written as question marks and a numeral exactly if the table does not know it. -/
lemma text_eq_unknown_iff {w : ℤ} : text w = "??? 0x" ++ Hex.padded 4 w ↔ known? w = none := by
  unfold text
  cases h : known? w with
  | none => simp
  | some t =>
    obtain ⟨i, -, rfl⟩ := exists_decode?_of_known? h
    simp only [Option.getD_some, reduceCtorEq, iff_false]
    intro heq
    exact i.head?_text_ne (heq ▸ head?_unknown w)

end Mnemonic

end Chip8
