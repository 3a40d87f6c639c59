import Chip8.Host.ElementType.Unreadable

set_option autoImplicit false

/-!
# Names of types

A type of elements has names: a letter, a letter with a number of bytes, or a word. A name may start
with a mark for the order of bytes. The types of times may have a step behind their names.

## Main definitions

* `Chip8.ElementType.ofLetter?`, `Chip8.ElementType.ofLetterAndSize?`, `Chip8.ElementType.ofWord?` —
  the type with a name of each kind.
* `Chip8.ElementType.ofName` — the type that a name stands for.
-/

namespace Chip8.ElementType

/-- The greatest number of bytes of an element. -/
def mostBytes : Nat := 0x7fffffff

/-- The type of a single letter. -/
def ofLetter? : Char → Option ElementType
  | '?' => some truth
  | 'b' => some (integer true 1)
  | 'B' => some (integer false 1)
  | 'h' => some (integer true 2)
  | 'H' => some (integer false 2)
  | 'i' => some (integer true 4)
  | 'I' => some (integer false 4)
  | 'l' | 'q' | 'p' | 'n' => some (integer true 8)
  | 'L' | 'Q' | 'P' | 'N' => some (integer false 8)
  | 'e' => some (floating 2)
  | 'f' => some (floating 4)
  | 'd' => some (floating 8)
  | 'g' => some (floating 16)
  | 'F' => some (complex 8)
  | 'D' => some (complex 16)
  | 'G' => some (complex 32)
  | 'O' => some object
  | 'S' => some (bytes 0)
  | 'c' => some (bytes 1)
  | 'U' => some (text 0)
  | 'T' => some freeText
  | 'V' => some (blank 0)
  | 'M' => some (moment none)
  | 'm' => some (duration none)
  | _ => none

/-- The type of a letter with a size. -/
def ofLetterAndSize? (letter : Char) (size : Nat) : Option ElementType :=
  match letter, size with
  | 'b', 1 => some truth
  | 'i', 1 | 'i', 2 | 'i', 4 | 'i', 8 => some (integer true size)
  | 'u', 1 | 'u', 2 | 'u', 4 | 'u', 8 => some (integer false size)
  | 'f', 2 | 'f', 4 | 'f', 8 | 'f', 16 => some (floating size)
  | 'c', 8 | 'c', 16 | 'c', 32 => some (complex size)
  | 'O', 4 | 'O', 8 => some object
  | 'S', _ | 'a', _ => some (bytes size)
  | 'U', _ => if 4 * size ≤ mostBytes then some (text size) else none
  | 'V', _ => some (blank size)
  | 'M', 8 => some (moment none)
  | 'm', 8 => some (duration none)
  | _, _ => none

/-- The types with a word for a name. -/
def words : List (List String × ElementType) :=
  [ (["bool", "bool_"], truth),
    (["int8", "byte"], integer true 1),
    (["int16", "short"], integer true 2),
    (["int32", "intc"], integer true 4),
    (["int64", "int", "int_", "long", "longlong", "intp"], integer true 8),
    (["uint8", "ubyte"], integer false 1),
    (["uint16", "ushort"], integer false 2),
    (["uint32", "uintc"], integer false 4),
    (["uint64", "uint", "ulong", "ulonglong", "uintp"], integer false 8),
    (["float16", "half"], floating 2),
    (["float32", "single"], floating 4),
    (["float64", "double", "float"], floating 8),
    (["float128", "longdouble"], floating 16),
    (["complex64", "csingle"], complex 8),
    (["complex128", "cdouble", "complex"], complex 16),
    (["complex256", "clongdouble"], complex 32),
    (["object", "object_"], object),
    (["bytes", "bytes_", "a"], bytes 0),
    (["str", "str_", "unicode"], text 0),
    (["void"], blank 0) ]

/-- The type with a word for a name. -/
def ofWord? (word : String) : Option ElementType :=
  match words.find? (·.1.contains word) with
  | some entry => some entry.2
  | none => if (narrowSizes.lookup word).isSome then some (narrow word) else none

/-- Words that were names of types once. -/
def removedWords : List String :=
  ["bool8", "bytes0", "int0", "object0", "str0", "uint0", "void0"]

/-- The size that characters stand for: a number that is neither negative nor too large, with
nothing behind it. -/
def size? (chars : List Char) : Option Nat :=
  match Numeral.leading? chars with
  | some (n, []) => if 0 ≤ n ∧ n ≤ mostBytes then some n.toNat else none
  | _ => none

/-- Whether a character is a mark for the order of bytes. -/
def isMark (c : Char) : Bool :=
  c == '<' || c == '>' || c == '|' || c == '='

/-- The types of times and what a name of them starts with. -/
def times : List (String × (Option TimeScale → ElementType)) :=
  [("M8", moment), ("m8", duration), ("datetime64", moment), ("timedelta64", duration)]

/-- The type that a name stands for. Words take no mark. -/
def ofName (chars : List Char) : Except Unreadable ElementType :=
  let bare :=
    match chars with
    | c :: rest => if isMark c then rest else chars
    | [] => []
  let word : Except Unreadable ElementType :=
    match ofWord? (String.ofList chars) with
    | some type => .ok type
    | none =>
      if removedWords.contains (String.ofList bare) then .error (.removed (String.ofList chars))
      else .error (.unknown (String.ofList chars))
  match times.find? fun time => time.1.toList.isPrefixOf bare with
  | some (start, type) =>
    match TimeScale.read (bare.drop start.length) with
    | .ok scale? => .ok (type scale?)
    | .error cause => .error (.timeScale cause)
  | none =>
    match bare with
    | [] => .error (.unknown (String.ofList chars))
    | [letter] => ((ofLetter? letter).map .ok).getD word
    | letter :: rest => (((size? rest).bind (ofLetterAndSize? letter)).map .ok).getD word

end Chip8.ElementType
