import Chip8.Error
import Chip8.Text.ByteCount
import Chip8.Word

set_option autoImplicit false

/-!
# Room for arrays, texts and loops

A host with words of sixty-four bits and a bounded memory. The number of bytes of an array and each
of its extents are such words; what fits into words may still not fit into memory. The iterations of
a loop are laid out in an array and counted in words of thirty-two bits.

## Main definitions

* `Chip8.Room.bytes` — the size of the memory.
* `Chip8.Room.arrayHindrance?`, `Chip8.Room.textHindrance?`, `Chip8.Room.loopHindrance?` — what
  keeps arrays and texts from being made and loops from being laid out.
-/

namespace Chip8.Room

/-- The number of bytes that there is room for. -/
def bytes : Nat := 0x1000000000

/-- How it is told that there is no room for an array of bytes. -/
def noRoomText (extents : List Nat) : String :=
  "Unable to allocate " ++ ByteCount.text (extents.foldl (· * ·) 1) ++
    " for an array with shape " ++ Listing.shape extents ++ " and data type uint8"

/-- What keeps an array of bytes from being made: an extent becomes negative as a word, or the
number of bytes is no word, or there is no room. -/
def arrayHindrance? (extents : List Nat) : Option Error :=
  let size : Nat := extents.foldl (· * ·) 1
  if extents.any fun extent => decide (Word.low64 extent < 0) then
    some (.host ⟨.value, "negative dimensions are not allowed"⟩)
  else if !Word.fits64 size then
    some (.host ⟨.value, "array is too big; `arr.size * arr.dtype.itemsize` is larger than the " ++
      "maximum possible size."⟩)
  else if bytes < size then some (.host ⟨.room, noRoomText extents⟩)
  else none

/-- What keeps a text from being made: there is no room. -/
def textHindrance? (length : Nat) : Option Error :=
  if bytes < length then some (.host ⟨.room, ""⟩) else none

/-- How it is told that the numbers of the iterations have no array. -/
def noArrayText : String :=
  "get(): incompatible function arguments. The following argument types are supported:\n" ++
    "    1. get(shape: collections.abc.Sequence[int], " ++
    "element_type: jaxlib.mlir._mlir_libs._mlir.ir.Type, " ++
    "encoding: jaxlib.mlir._mlir_libs._mlir.ir.Attribute | None = None, " ++
    "loc: _mlir.ir.Location | None = None) " ++
    "-> jaxlib.mlir._mlir_libs._mlir.ir.RankedTensorType\n\n" ++
    "Invoked with types: tuple, jaxlib.mlir._mlir_libs._mlir.ir.IntegerType"

/-- What keeps a loop from being laid out: its iterations are counted in words of thirty-two bits,
and their numbers have an array if their total is a word of sixty-four bits. A loop without
iterations counts nothing. -/
def loopHindrance? (total : Int) : Option Error :=
  if total ≤ 0 || Word.fits32 total then none
  else if Word.fits64 total then some (Overflow.operand "y" total).error
  else some (.host ⟨.kind, noArrayText⟩)

end Chip8.Room
