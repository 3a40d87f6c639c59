set_option autoImplicit false

/-!
# Text of short lists

How messages write a shape, as in `(64, 32)`, and a list of names, as in `['on', 'off']`, and how a
text is taken apart at a mark.

## Main definitions

* `Chip8.Listing.shape` — the extents of a rectangular arrangement in round brackets.
* `Chip8.Listing.names` — quoted names in square brackets.
* `Chip8.Listing.parts` — the parts of a text between marks.
-/

namespace Chip8.Listing

/-- The extents of a rectangular arrangement, outermost first. A single extent is followed by a
comma, and no extent at all is `()`. -/
def shape : List Nat → String
  | [] => "()"
  | [n] => "(" ++ toString n ++ ",)"
  | extents => "(" ++ ", ".intercalate (extents.map toString) ++ ")"

/-- Names in single quotes, between square brackets. -/
def names (words : List String) : String :=
  "[" ++ ", ".intercalate (words.map fun word => "'" ++ word ++ "'") ++ "]"

/-- The parts of a text between marks. A text without a mark is one part, and there is an empty part
where nothing stands before, after or between marks. -/
def parts (mark : Char) (text : String) : List String :=
  (text.toList.splitOn mark).map String.ofList

end Chip8.Listing
