import Chip8.Host.ElementType.Name

set_option autoImplicit false

/-!
# Formats of entries

A format describes entries by names of types. Numbers in front of a name stand for a row with so
many elements, and names with commas between them stand for the fields of a record. A format
without any of this is a name alone.

## Main definitions

* `Chip8.ElementType.repeated` — a row of elements, or an element of a size that was open.
* `Chip8.EntryFormat.Item` — a name with the numbers in front of it.
* `Chip8.EntryType.named` — the type of entries that a text stands for.
-/

namespace Chip8

namespace ElementType

/-! ## Rows -/

/-- The product of extents, unless it is no word of sixty-four bits before an extent of zero is
met. -/
def product? (n : Nat) : List Nat → Option Nat
  | [] => some n
  | 0 :: _ => some 0
  | extent :: rest =>
    if 0x7fffffffffffffff < n * extent then none else product? (n * extent) rest

/-- The greatest number of extents of a row. -/
def mostExtents : Nat := 64

/-- A row of given extents, unless it is too large. -/
def rowOf (element : ElementType) (extents : List Nat) : Except Unreadable ElementType :=
  if mostExtents < extents.length || extents.any (0x7fffffffffffffff < ·) then
    .error (.extent .word)
  else if extents.any (mostBytes < ·) then .error (.extent .count)
  else
    match product? 1 extents with
    | some n =>
      if mostBytes < max n (n * element.size) then .error (.extent .bytes)
      else .ok (row element extents)
    | none => .error (.extent .bytes)

/-- An element with its size left open, with the size given. -/
def ofSize (element : ElementType) (size : Nat) : Except Unreadable ElementType :=
  let type :=
    match element with
    | bytes _ => bytes size
    | text _ => text size
    | blank _ => blank size
    | other => other
  if mostBytes < max size type.size then .error .elementSize else .ok type

/-- Elements of a type as the numbers in front of its name tell. A type that leaves its size open
takes a single number for its size. No numbers in brackets change nothing. -/
def repeated (element : ElementType) (extents : Extents) : Except Unreadable ElementType :=
  match extents with
  | .one n => if element.size = 0 then element.ofSize n else rowOf element [n]
  | .several ns =>
    if element.size = 0 then .error .elementSize
    else if ns.isEmpty then .ok element
    else rowOf element ns

end ElementType

namespace EntryFormat

open ElementType

/-! ## Items -/

/-- Whether there is a comma outside square brackets, of which so many are open. -/
def hasComma (depth : Int) : List Char → Bool
  | [] => false
  | c :: rest =>
    (c == ',' && depth == 0) ||
      hasComma (if c = '[' then depth + 1 else if c = ']' then depth - 1 else depth) rest

/-- Whether characters are more than a name alone: they start with a number or with empty brackets,
where a mark may come first, or there is a comma in them. -/
def isCompound (chars : List Char) : Bool :=
  let startsWithDigit (chars : List Char) : Bool := (chars.head?.map Char.isDigit).getD false
  let startsEmpty (chars : List Char) : Bool := "()".toList.isPrefixOf chars
  startsWithDigit chars || startsEmpty chars || hasComma 0 chars ||
    match chars with
    | c :: rest => isMark c && (startsWithDigit rest || (startsEmpty rest && 2 < rest.length))
    | [] => false

/-- A name with the numbers in front of it, if there are any. -/
structure Item where
  /-- The numbers. -/
  extents? : Option Extents
  /-- The name, with a mark for the order of bytes where it is not the usual one. -/
  name : List Char
  deriving DecidableEq, Repr

/-- The characters at the start that are of a kind, and those behind them. -/
def split (isFit : Char → Bool) (chars : List Char) : List Char × List Char :=
  (chars.takeWhile isFit, chars.dropWhile isFit)

/-- The first character if it is of a kind, and the characters behind it. -/
def splitOne (isFit : Char → Bool) : List Char → List Char × List Char
  | c :: rest => if isFit c then ([c], rest) else ([], c :: rest)
  | [] => ([], [])

/-- The characters at the start that numbers are made of, and those behind them: round brackets
around digits, commas and blanks, with blanks around the brackets. -/
def splitNumbers (chars : List Char) : List Char × List Char :=
  let (blanks, rest) := split (· == ' ') chars
  let (opening, rest) := splitOne (· == '(') rest
  let (numbers, rest) := split (fun c => c == ' ' || c == ',' || c.isDigit) rest
  let (closing, rest) := splitOne (· == ')') rest
  let (moreBlanks, rest) := split (· == ' ') rest
  (blanks ++ opening ++ numbers ++ closing ++ moreBlanks, rest)

/-- The characters at the start that a name is made of, and those behind them: letters, digits,
points and question marks, with a part in square brackets behind them. -/
def splitName (chars : List Char) : List Char × List Char :=
  let (stem, rest) := split (fun c => c.isAlphanum || c == '.' || c == '?') chars
  match rest with
  | '[' :: inside =>
    let (inner, behind) := split (fun c => c.isAlphanum || c == '.' || c == ',') inside
    match behind with
    | ']' :: behind => (stem ++ '[' :: inner ++ [']'], behind)
    | _ => (stem, rest)
  | _ => (stem, rest)

/-- The order of bytes that two marks agree on, if any is given. What is the usual order is not
told. -/
def order (before behind : List Char) : Except Unreadable (List Char) :=
  let usual (mark : List Char) : List Char := if mark = ['='] then ['<'] else mark
  let told (mark : List Char) : List Char := if mark = ['>'] then mark else []
  if behind.isEmpty then .ok (told before)
  else if before.isEmpty || usual before = usual behind then .ok (told behind)
  else .error (.byteOrder (String.ofList (usual before)) (String.ofList (usual behind)))

/-- The numbers that characters stand for, if there are any characters. -/
def extents? (chars : List Char) : Except Unreadable (Option Extents) :=
  if chars.isEmpty then .ok none
  else
    match Extents.read chars with
    | .ok extents => .ok (some extents)
    | .error cause => .error (.numbers cause)

/-- Whether a character is a blank of any script, or parts texts. -/
def isSpace (c : Char) : Bool :=
  let n := c.toNat
  Numeral.isBlank c || (0x1c ≤ n && n ≤ 0x1f) || (0x2000 ≤ n && n ≤ 0x200a) ||
    [0x85, 0xa0, 0x1680, 0x2028, 0x2029, 0x202f, 0x205f, 0x3000].contains n

/-- What stands behind an item: nothing but blanks, or a comma and further items. -/
def next? (chars : List Char) : Option (Option (List Char)) :=
  match chars.dropWhile isSpace with
  | [] => some none
  | ',' :: rest => some (some (rest.dropWhile isSpace))
  | _ => none

/-- The items of characters, of which at most so many are looked for, and whether there is a comma
between items. The items in front of these are counted, and the whole text is told in errors. -/
def items (text : String) : Nat → Nat → List Char → Except Unreadable (List Item × Bool)
  | 0, _, _ | _, _, [] => .ok ([], false)
  | most + 1, place, chars => do
    let (before, rest) := splitOne isMark chars
    let (numbers, rest) := splitNumbers rest
    let (behind, rest) := splitOne isMark rest
    let (stem, rest) := splitName rest
    match next? rest with
    | none => throw (.format place text)
    | some next? =>
      let mark ← order before behind
      let item : Item := { extents? := ← extents? numbers, name := mark ++ stem }
      match next? with
      | none => return ([item], false)
      | some rest =>
        let (others, _) ← items text most (place + 1) rest
        return (item :: others, true)

/-- All items of characters, and whether there is a comma between items. -/
def allItems (chars : List Char) : Except Unreadable (List Item × Bool) :=
  items (String.ofList chars) chars.length 1 chars

/-! ## Types -/

/-- The type of an item whose name is read as told. -/
def Item.type (item : Item) (ofName : List Char → Except Unreadable ElementType) :
    Except Unreadable ElementType := do
  let element ← ofName item.name
  match item.extents? with
  | some extents => element.repeated extents
  | none => return element

/-- The type of the characters of an item's name, which may be an item once more, in so many
layers. -/
def typeOf : Nat → List Char → Except Unreadable ElementType
  | 0, chars => .error (.unknown (String.ofList chars))
  | layers + 1, chars => do
    if !isCompound chars then ofName chars
    else
      match ← allItems chars with
      | (item :: _, _) => item.type (typeOf layers)
      | ([], _) => throw (.unknown (String.ofList chars))

/-- The type of a field of a record. -/
def Item.field (item : Item) (layers : Nat) : Except Unreadable ElementType := do
  match ← item.type (typeOf layers) with
  | .freeText => throw .freeTextField
  | type => return type

end EntryFormat

/-- The type of entries that a text stands for. -/
def EntryType.named (text : String) : Except ElementType.Unreadable EntryType := do
  let chars := text.toList
  let layers := chars.length + 1
  if EntryFormat.isCompound chars then
    match ← EntryFormat.allItems chars with
    | (items, true) => return .record (← items.mapM fun item => item.field layers)
    | _ => return .element (← EntryFormat.typeOf layers chars)
  else return .element (← ElementType.ofName chars)

end Chip8
