import Chip8.Text.Decimal
import Chip8.Text.Numeral

set_option autoImplicit false

/-!
# Extents in front of a name

In front of the name of a type there may be a number, or several numbers with commas between them
and perhaps round brackets around them all. A single number with a comma behind it counts as several
numbers.

## Main definitions

* `Chip8.Extents` — a number or several numbers.
* `Chip8.Extents.Unreadable` — why characters are no such numbers.
* `Chip8.Extents.read` — the numbers that characters stand for.
-/

namespace Chip8

/-- A number or several numbers. -/
inductive Extents where
  /-- A single number. -/
  | one (n : Nat)
  /-- Several numbers, or a single one that is written like them. -/
  | several (ns : List Nat)
  deriving DecidableEq, Repr

namespace Extents

/-- Why characters are no numbers. -/
inductive Unreadable where
  /-- There are only blanks. -/
  | blank
  /-- A number starts with a zero. -/
  | leadingZeros
  /-- There is a closing bracket without an opening one. -/
  | unopened
  /-- There is an opening bracket without a closing one. -/
  | unclosed
  /-- There is no comma between two numbers inside brackets. -/
  | noComma
  /-- Something stands where nothing of the kind can stand. -/
  | misplaced
  /-- A number has more digits than are read. -/
  | tooManyDigits (digits : Nat)
  deriving DecidableEq, Repr

/-- How it is told why characters are no numbers. -/
def Unreadable.text : Unreadable → String
  | .blank => "invalid syntax (<unknown>, line 0)"
  | .leadingZeros =>
    "leading zeros in decimal integer literals are not permitted; " ++
      "use an 0o prefix for octal integers (<unknown>, line 1)"
  | .unopened => "unmatched ')' (<unknown>, line 1)"
  | .unclosed => "'(' was never closed (<unknown>, line 1)"
  | .noComma => "invalid syntax. Perhaps you forgot a comma? (<unknown>, line 1)"
  | .misplaced => "invalid syntax (<unknown>, line 1)"
  | .tooManyDigits digits =>
    Decimal.tooManyDigits (some digits) ++ " - Consider hexadecimal for huge integer literals " ++
      "to avoid decimal conversion limits. (<unknown>, line 1)"

/-! ## Reading -/

/-- The brackets around numbers. -/
inductive Brackets where
  /-- There are no brackets. -/
  | none
  /-- There is an opening bracket only. -/
  | opened
  /-- There are both brackets. -/
  | closed
  deriving DecidableEq, Repr

/-- The words of characters: numerals, and every other character that is no blank by itself. -/
def words (chars : List Char) : List (List Char) :=
  (chars.splitBy fun a b => a.isDigit && b.isDigit).filter (· != [' '])

/-- Whether a word is a numeral. -/
def isNumeral (word : List Char) : Bool :=
  (word.head?.map Char.isDigit).getD false

/-- Whether a numeral starts with a zero though not all its digits are zeros. -/
def isPadded (word : List Char) : Bool :=
  word.head? == some '0' && !word.all (· == '0')

/-- The number of a numeral, which must not be too long. -/
def number (numeral : List Char) : Except Unreadable Nat :=
  if Decimal.mostDigits < numeral.length && !numeral.all (· == '0') then
    .error (.tooManyDigits numeral.length)
  else .ok (Numeral.value numeral)

/-- The numbers of words that are numerals with commas between them, and whether there is any
comma. A numeral without a comma before it is read before it is found to be out of place. -/
def separated (brackets : Brackets) : List (List Char) → Except Unreadable (List Nat × Bool)
  | [] => .ok ([], false)
  | [word] => do
    if !isNumeral word then throw .misplaced
    return ([← number word], false)
  | word :: [','] :: rest => do
    if !isNumeral word then throw .misplaced
    let n ← number word
    let (ns, _) ← separated brackets rest
    return (n :: ns, true)
  | word :: next :: rest => do
    if !isNumeral word then throw .misplaced
    let _ ← number word
    let _ ← number next
    match brackets with
    | .none => throw .misplaced
    | .opened => throw (if rest.isEmpty then .unclosed else .noComma)
    | .closed => throw .noComma

/-- The numbers that characters stand for. -/
def read (chars : List Char) : Except Unreadable Extents := do
  let words := words chars
  if words.any isPadded then throw .leadingZeros
  let isClosed := words.getLast? == some [')']
  match words with
  | [] => throw .blank
  | ['('] :: inside =>
    if isClosed then
      let inside := inside.dropLast
      let (ns, hasComma) ← separated .closed inside
      match ns, hasComma with
      | [n], false => return .one n
      | _, _ => return .several ns
    else
      let _ ← separated .opened inside
      throw .unclosed
  | _ =>
    if isClosed then throw .unopened
    let (ns, hasComma) ← separated .none words
    match ns, hasComma with
    | [n], false => return .one n
    | _, _ => return .several ns

end Extents

end Chip8
