import Chip8.Opcode
import Chip8.Text.Hex

set_option autoImplicit false

/-!
# Assembly text of instruction words

The conventional text of an instruction word, such as `LD V1, 0x2A` or `DRW V0, V1, 5`. A word
without a text is written as question marks and its hexadecimal numeral.

The text reads the fields of a word, except in the system family: there the whole word has to be
`00E0` or `00EE`, so an integer that only agrees with them in its low sixteen bits has no text.

## Main definitions

* `Chip8.Mnemonic.known?` — the text of a word that has one.
* `Chip8.Mnemonic.text` — the text of any word.
-/

namespace Chip8.Mnemonic

/-- A register operand. -/
def register (x : Register) : String :=
  "V" ++ Hex.padded 1 x.val

/-- An address operand. -/
def address (nnn : Fin 4096) : String :=
  "0x" ++ Hex.padded 3 nnn.val

/-- A byte operand. -/
def byte (nn : UInt8) : String :=
  "0x" ++ Hex.padded 2 nn.toNat

/-- The text of a word of the arithmetic family. Shifts name one register only. -/
def arithmetic? (x y : Register) (n : Fin 16) : Option String :=
  let both (name : String) : String := name ++ " " ++ register x ++ ", " ++ register y
  match n with
  | 0x0 => some (both "LD")
  | 0x1 => some (both "OR")
  | 0x2 => some (both "AND")
  | 0x3 => some (both "XOR")
  | 0x4 => some (both "ADD")
  | 0x5 => some (both "SUB")
  | 0x6 => some ("SHR " ++ register x)
  | 0x7 => some (both "SUBN")
  | 0xE => some ("SHL " ++ register x)
  | _ => none

/-- The text of a word of the miscellaneous family. -/
def misc? (x : Register) (nn : UInt8) : Option String :=
  match nn with
  | 0x07 => some ("LD " ++ register x ++ ", DT")
  | 0x0A => some ("LD " ++ register x ++ ", K")
  | 0x15 => some ("LD DT, " ++ register x)
  | 0x18 => some ("LD ST, " ++ register x)
  | 0x1E => some ("ADD I, " ++ register x)
  | 0x29 => some ("LD F, " ++ register x)
  | 0x33 => some ("LD B, " ++ register x)
  | 0x55 => some ("LD [I], " ++ register x)
  | 0x65 => some ("LD " ++ register x ++ ", [I]")
  | _ => none

/-- The text of a word that has one. -/
def known? (w : Int) : Option String :=
  let f := Fields.ofWord w
  let vx := register f.x
  let vy := register f.y
  match f.tag with
  | 0x0 => if w = 0x00E0 then some "CLS" else if w = 0x00EE then some "RET" else none
  | 0x1 => some ("JP " ++ address f.nnn)
  | 0x2 => some ("CALL " ++ address f.nnn)
  | 0x3 => some ("SE " ++ vx ++ ", " ++ byte f.nn)
  | 0x4 => some ("SNE " ++ vx ++ ", " ++ byte f.nn)
  | 0x5 => if f.n.val = 0 then some ("SE " ++ vx ++ ", " ++ vy) else none
  | 0x6 => some ("LD " ++ vx ++ ", " ++ byte f.nn)
  | 0x7 => some ("ADD " ++ vx ++ ", " ++ byte f.nn)
  | 0x8 => arithmetic? f.x f.y f.n
  | 0x9 => if f.n.val = 0 then some ("SNE " ++ vx ++ ", " ++ vy) else none
  | 0xA => some ("LD I, " ++ address f.nnn)
  | 0xB => some ("JP V0, " ++ address f.nnn)
  | 0xC => some ("RND " ++ vx ++ ", " ++ byte f.nn)
  | 0xD => some ("DRW " ++ vx ++ ", " ++ vy ++ ", " ++ toString f.n.val)
  | 0xE =>
    match f.nn with
    | 0x9E => some ("SKP " ++ vx)
    | 0xA1 => some ("SKNP " ++ vx)
    | _ => none
  | _ => misc? f.x f.nn

/-- The text of any word; without a text of its own it is `???` and the word in at least four
hexadecimal digits. -/
def text (w : Int) : String :=
  (known? w).getD ("??? 0x" ++ Hex.padded 4 w)

end Chip8.Mnemonic
