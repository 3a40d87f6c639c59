import Chip8.Host.ElementType.TimeScale
import Chip8.Text.Listing

set_option autoImplicit false

/-!
# Types of elements

The elements of an array are of one type: numbers, texts, times, or rows of such. The entries of an
array are elements, or records with an element of each of several types. How a type is told depends
on whether it is told by itself or as a part of another one.

## Main definitions

* `Chip8.ElementType` — a type of elements.
* `Chip8.ElementType.isAtHand` — whether arrays of such elements are at hand.
* `Chip8.ElementType.size` — the number of bytes of an element.
* `Chip8.ElementType.short`, `Chip8.ElementType.shown` — how a type is told.
* `Chip8.EntryType` — a type of entries.
-/

namespace Chip8

/-- A type of elements. Sizes are numbers of bytes unless said otherwise. -/
inductive ElementType where
  /-- Truth values. -/
  | truth
  /-- Integers with or without a sign. -/
  | integer (hasSign : Bool) (size : Nat)
  /-- Floating-point numbers. -/
  | floating (size : Nat)
  /-- Complex numbers. -/
  | complex (size : Nat)
  /-- Numbers of a narrow format that is known by its name only. -/
  | narrow (name : String)
  /-- Things of any kind. -/
  | object
  /-- Rows of bytes. -/
  | bytes (size : Nat)
  /-- Texts of a number of characters. -/
  | text (length : Nat)
  /-- Texts of any length. -/
  | freeText
  /-- Bytes without a meaning. -/
  | blank (size : Nat)
  /-- Points in time, counted in steps. -/
  | moment (scale? : Option TimeScale)
  /-- Lengths of time, counted in steps. -/
  | duration (scale? : Option TimeScale)
  /-- Rows of elements of one type, of one or more extents. -/
  | row (element : ElementType) (extents : List Nat)
  deriving DecidableEq, Repr

namespace ElementType

/-- Whether arrays of such elements are at hand: numbers that are not wider than eight bytes for a
real number, and texts of any length. -/
def isAtHand : ElementType → Bool
  | truth | integer .. | freeText => true
  | floating size => decide (size ≤ 8)
  | complex size => decide (size ≤ 16)
  | narrow name => decide (name ≠ "complex32" ∧ name ≠ "bcomplex32")
  | _ => false

/-- The sizes of narrow formats by their names. -/
def narrowSizes : List (String × Nat) :=
  [ ("bfloat16", 2),
    ("float4_e2m1fn", 1),
    ("float6_e2m3fn", 1),
    ("float6_e3m2fn", 1),
    ("float8_e3m4", 1),
    ("float8_e4m3", 1),
    ("float8_e4m3b11fnuz", 1),
    ("float8_e4m3fn", 1),
    ("float8_e4m3fnuz", 1),
    ("float8_e5m2", 1),
    ("float8_e5m2fnuz", 1),
    ("float8_e8m0fnu", 1),
    ("int1", 1),
    ("int2", 1),
    ("int4", 1),
    ("uint1", 1),
    ("uint2", 1),
    ("uint4", 1),
    ("complex32", 4),
    ("bcomplex32", 4) ]

/-- The number of bytes of an element. -/
def size : ElementType → Nat
  | truth => 1
  | integer _ size | floating size | complex size | bytes size | blank size => size
  | narrow name => (narrowSizes.lookup name).getD 0
  | object | moment _ | duration _ => 8
  | text length => 4 * length
  | freeText => 16
  | row element extents => extents.foldl (· * ·) 1 * element.size

/-! ## How types are told -/

/-- A size behind a letter; no size at all is left out. -/
def sized (letter : String) (size : Nat) : String :=
  if size = 0 then letter else letter ++ toString size

/-- The step in which times are counted, if there is one in particular. -/
def scaleText (scale? : Option TimeScale) : String :=
  (scale?.map TimeScale.text).getD ""

/-- The letter of a type with its size, in quotes. Where the order of bytes matters, a mark for it
comes first. -/
def short : ElementType → String
  | truth => "'?'"
  | integer hasSign size =>
    "'" ++ (if size = 1 then "" else "<") ++ sized (if hasSign then "i" else "u") size ++ "'"
  | floating size => "'<" ++ sized "f" size ++ "'"
  | complex size => "'<" ++ sized "c" size ++ "'"
  | narrow name => name
  | object => "'O'"
  | bytes size => "'" ++ sized "S" size ++ "'"
  | text length => "'<" ++ sized "U" length ++ "'"
  | freeText => "'T'"
  | blank size => "'" ++ sized "V" size ++ "'"
  | moment scale? => "'<M8" ++ scaleText scale? ++ "'"
  | duration scale? => "'<m8" ++ scaleText scale? ++ "'"
  | row element extents => "(" ++ element.short ++ ", " ++ Listing.shape extents ++ ")"

/-- How a type is told by itself. -/
def shown : ElementType → String
  | truth => "bool"
  | integer hasSign size => (if hasSign then "int" else "uint") ++ toString (8 * size)
  | floating size => "float" ++ toString (8 * size)
  | complex size => "complex" ++ toString (8 * size)
  | narrow name => name
  | object => "object"
  | bytes size => "|S" ++ toString size
  | text length => "<U" ++ toString length
  | freeText => "StringDType()"
  | blank size => "|V" ++ toString size
  | moment scale? => "datetime64" ++ scaleText scale?
  | duration scale? => "timedelta64" ++ scaleText scale?
  | row element extents => short (row element extents)

/-- How a type is told as a part of a record: a row by its elements and its extents. -/
def asField : ElementType → String
  | row element extents => element.short ++ ", " ++ Listing.shape extents
  | type => type.short

end ElementType

/-- A type of entries. -/
inductive EntryType where
  /-- Elements of one type. -/
  | element (type : ElementType)
  /-- Records with an element of each of several types, in order. -/
  | record (fields : List ElementType)
  deriving DecidableEq, Repr

/-- How a type of entries is told. The fields of a record are named by their places. -/
def EntryType.shown : EntryType → String
  | .element type => type.shown
  | .record fields =>
    let field (entry : ElementType × Nat) : String :=
      "('f" ++ toString entry.2 ++ "', " ++ entry.1.asField ++ ")"
    "[" ++ ", ".intercalate (fields.zipIdx.map field) ++ "]"

end Chip8
