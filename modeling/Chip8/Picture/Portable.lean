import Chip8.Picture.Image

set_option autoImplicit false

/-!
# Portable pixmaps

The bytes of a picture as a portable pixmap: a short header that tells the width, the height and
the largest channel value, then three bytes for every pixel.

## Main definitions

* `Chip8.Image.portable` — the bytes of a picture.
-/

namespace Chip8

/-- The header of a portable pixmap. -/
def Image.portableHeader (image : Image) : String :=
  "P6\n" ++ toString image.width ++ " " ++ toString image.height ++ "\n255\n"

/-- Bytes with those of a colour added. -/
def Colour.pushTo (bytes : ByteArray) (c : Colour) : ByteArray :=
  ((bytes.push c.red).push c.green).push c.blue

/-- The bytes of a picture as a portable pixmap. -/
def Image.portable (image : Image) : ByteArray :=
  image.rows.foldl (fun bytes row => row.foldl Colour.pushTo bytes) image.portableHeader.toUTF8

end Chip8
