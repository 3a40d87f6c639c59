import Chip8.Host.ElementType.Basic
import Chip8.Host.ElementType.Extents
import Chip8.Text.Quoted

set_option autoImplicit false

/-!
# Texts that name no type

Most texts are no names of types of entries, for one of many reasons. Some of them look like names,
though of no type that there is; others are not even written like a name.

## Main definitions

* `Chip8.ElementType.Unreadable` — why a text names no type.
* `Chip8.ElementType.Unreadable.text` — how this is told.
* `Chip8.ElementType.Unreadable.isUnknown` — whether the text looks like a name at least.
-/

namespace Chip8.ElementType

/-- Why a row cannot have its extents. -/
inductive RowExtent where
  /-- An extent is not a word of sixty-four bits, or there are too many of them. -/
  | word
  /-- An extent is not a word of thirty-two bits. -/
  | count
  /-- The number of bytes is not a word of thirty-two bits. -/
  | bytes
  deriving DecidableEq, Repr

/-- How it is told why a row cannot have its extents. -/
def RowExtent.text : RowExtent → String
  | .word => "invalid shape in fixed-type tuple."
  | .count => "invalid shape in fixed-type tuple: dimension does not fit into a C int."
  | .bytes => "invalid shape in fixed-type tuple: dtype size in bytes must fit into a C int."

/-- Why a text names no type of entries. -/
inductive Unreadable where
  /-- No type has such a name. -/
  | unknown (name : String)
  /-- A name that is no longer in use. -/
  | removed (name : String)
  /-- Times are not counted in such steps. -/
  | timeScale (cause : TimeScale.Unreadable)
  /-- Texts of any length cannot be parts of records. -/
  | freeTextField
  /-- What stands behind a name is neither a comma nor the end. The names in front of this one are
  counted as well. -/
  | format (place : Nat) (text : String)
  /-- The marks for the order of bytes before and behind a number differ. -/
  | byteOrder (before behind : String)
  /-- What stands in front of a name are no numbers. -/
  | numbers (cause : Extents.Unreadable)
  /-- A number is too large for the size of an element, or there are several of them. -/
  | elementSize
  /-- A row cannot have such extents. -/
  | extent (cause : RowExtent)
  deriving DecidableEq, Repr

/-- How it is told why a text names no type. -/
def Unreadable.text : Unreadable → String
  | .unknown name => "data type " ++ Quoted.text name ++ " not understood"
  | .removed name =>
    "Alias " ++ Quoted.text name ++ " was removed in NumPy 2.0. " ++
      "Use a name without a digit at the end."
  | .timeScale cause => cause.text
  | .freeTextField => "StringDType is not currently supported for structured dtype fields."
  | .format place text =>
    "format number " ++ toString place ++ " of \"" ++ text ++ "\" is not recognized"
  | .byteOrder before behind =>
    "inconsistent byte-order specification " ++ before ++ " and " ++ behind
  | .numbers cause => cause.text
  | .elementSize => "invalid itemsize in generic type tuple"
  | .extent cause => cause.text

/-- Whether a text looks like a name, though of no type that there is. -/
def Unreadable.isUnknown : Unreadable → Bool
  | .unknown _ | .removed _ | .freeTextField => true
  | .timeScale cause =>
    match cause with
    | .form .. | .unit _ => true
    | _ => false
  | _ => false

end Chip8.ElementType
