import Chip8.Text.Listing

set_option autoImplicit false

/-!
# Texts with references

A text may refer to settings by their paths, as in `size-${scale}`, or to a function with arguments,
whose name is followed by a colon. A backslash in front of a reference makes it mere text, and two
of them stand for one. A path has parts with points between them; a part may stand in square
brackets instead of behind a point, and points in front of all parts lead upwards.

## Main definitions

* `Chip8.Reference` — a path or a function that a text refers to.
* `Chip8.Template` — a text as a list of plain texts and references.
* `Chip8.Template.refers` — whether a text holds anything like a reference.
* `Chip8.Template.ofText?` — the template that a text is.
-/

namespace Chip8

/-- What a text refers to. -/
inductive Reference where
  /-- The end of a path: the number of points in front of it, the path as it is written without
  them, and its parts. -/
  | path (points : Nat) (written : String) (parts : List String)
  /-- The outcome of a function for arguments. -/
  | function (name : String) (arguments : List String)
  deriving DecidableEq, Repr

namespace Reference

/-- Whether a character is a blank. -/
def isBlank (c : Char) : Bool :=
  c == ' ' || c == '\t'

/-- Whether a character can be in a part of a path. -/
def isOfPart (c : Char) : Bool :=
  let marks := ['\\', '\x7b', '\x7d', '(', ')', '[', ']', ':', '.', '\x27', '\x22']
  !isBlank c && !marks.contains c

/-- Whether characters are a word: a letter or an underscore first, and then also digits and
hyphens. -/
def isWord : List Char → Bool
  | c :: rest =>
    (c.isAlpha || c == '_') && rest.all fun c => c.isAlphanum || c == '_' || c == '-'
  | [] => false

/-- The parts behind the first one, at most so many. Each stands behind a point or in square
brackets. -/
def parts? : Nat → List Char → Option (List String)
  | 0, chars => if chars.isEmpty then some [] else none
  | most + 1, chars =>
    let part (inside : List Char) : List Char := inside.takeWhile isOfPart
    match chars with
    | [] => some []
    | '.' :: inside =>
      if (part inside).isEmpty then none
      else
        (parts? most (inside.drop (part inside).length)).map (String.ofList (part inside) :: ·)
    | '[' :: inside =>
      match inside.drop (part inside).length with
      | ']' :: rest =>
        if (part inside).isEmpty then none
        else (parts? most rest).map (String.ofList (part inside) :: ·)
      | _ => none
    | _ => none

/-- The path that characters are. The first part may stand without a point. -/
def path? (chars : List Char) : Option Reference :=
  let points := chars.takeWhile (· == '.')
  let bare := chars.drop points.length
  let behindPoint := if bare.head? = some '[' then bare else '.' :: bare
  if bare.isEmpty then none
  else (parts? bare.length behindPoint).map (.path points.length (String.ofList bare))

/-- Characters without the blanks at their ends. -/
def trimmed (chars : List Char) : List Char :=
  ((chars.dropWhile isBlank).reverse.dropWhile isBlank).reverse

/-- The function that characters name, with its arguments behind a colon and commas between them. -/
def function? (inside : List Char) : Option Reference :=
  let name := String.ofList (trimmed (inside.takeWhile (· != ':')))
  let behind := String.ofList (trimmed ((inside.dropWhile (· != ':')).drop 1))
  let arguments := (Listing.parts ',' behind).map fun argument =>
    String.ofList (trimmed argument.toList)
  if (Listing.parts '.' name).all (isWord ·.toList) then
    some (.function name (if behind.isEmpty then [] else arguments))
  else none

/-- The reference whose characters stand between braces. -/
def ofInside? (inside : List Char) : Option Reference :=
  if inside.contains ':' then function? inside else path? (trimmed inside)

end Reference

/-- A piece of a text: plain text or a reference. -/
inductive Piece where
  /-- Plain text. -/
  | plain (text : String)
  /-- A reference. -/
  | reference (target : Reference)
  deriving DecidableEq, Repr

/-- A text as a list of plain texts and references. -/
structure Template where
  /-- The text as it is written. -/
  written : String
  /-- The pieces. -/
  pieces : List Piece
  deriving DecidableEq, Repr

namespace Template

/-- The characters in front of the first opening of a reference and those behind it, if there is
one. -/
def splitOpening : List Char → Option (List Char × List Char)
  | '$' :: '\x7b' :: rest => some ([], rest)
  | c :: rest => (splitOpening rest).map fun (before, behind) => (c :: before, behind)
  | [] => none

/-- Whether a text holds the opening of a reference, be it meant or not. -/
def refers (text : String) : Bool :=
  (splitOpening text.toList).isSome

/-- Puts plain characters in front of pieces. -/
def prepend (chars : List Char) (pieces : List Piece) : List Piece :=
  if chars.isEmpty then pieces else .plain (String.ofList chars) :: pieces

/-- The pieces of characters with at most so many openings. -/
def pieces? : Nat → List Char → Option (List Piece)
  | 0, chars => some (prepend chars [])
  | most + 1, chars =>
    match splitOpening chars with
    | none => some (prepend chars [])
    | some (before, behind) =>
      let slashes := (before.reverse.takeWhile (· == '\\')).length
      let kept := before.take (before.length - slashes) ++ List.replicate (slashes / 2) '\\'
      if slashes % 2 = 1 then
        (pieces? most behind).map (prepend (kept ++ ['$', '\x7b']))
      else do
        let inside := behind.takeWhile (· != '\x7d')
        let target ← Reference.ofInside? inside
        match behind.drop inside.length with
        | _ :: rest => return prepend kept (.reference target :: (← pieces? most rest))
        | [] => none

/-- The template that a text is, if its references are well written. -/
def ofText? (text : String) : Option Template :=
  (pieces? text.length text.toList).map fun pieces => { written := text, pieces }

end Template

end Chip8
