import Chip8.Error
import Chip8.Text.SmallLetter

set_option autoImplicit false

/-!
# Picture formats

A picture file is written in the format that goes with the ending of its name. Many formats take a
picture of three channels; of the others some can only be read, some have no colours, and some are
written by a program that is not there.

## Main definitions

* `Chip8.Format` — a format and what it takes.
* `Chip8.Format.all` — the formats with their endings.
* `Chip8.Format.extension` — the ending of a file name.
* `Chip8.Format.find` — the format of an ending.
* `Chip8.Format.check` — whether a picture can be written in a format.
-/

namespace Chip8

/-- What a format takes. -/
inductive Format.Support where
  /-- Pictures of three channels. -/
  | full
  /-- Nothing: pictures can only be read. -/
  | readOnly
  /-- Pictures of one channel. -/
  | noColours
  /-- Pictures whose colours are numbers of a list. -/
  | listedColours
  /-- Nothing, since what writes them is not there. -/
  | noWriter
  deriving DecidableEq, Repr

/-- A picture format. -/
structure Format where
  /-- The name of the format. -/
  name : String
  /-- What the format takes. -/
  support : Format.Support
  deriving DecidableEq, Repr

namespace Format

/-- The formats that take pictures of three channels, with their endings. -/
def writable : List (String × List String) :=
  [ ("AVIF", [".avif", ".avifs"]),
    ("BMP", [".bmp"]),
    ("DDS", [".dds"]),
    ("DIB", [".dib"]),
    ("EPS", [".ps", ".eps"]),
    ("GIF", [".gif"]),
    ("ICNS", [".icns"]),
    ("ICO", [".ico"]),
    ("IM", [".im"]),
    ("JPEG", [".jfif", ".jpe", ".jpg", ".jpeg"]),
    ("JPEG2000", [".jp2", ".j2k", ".jpc", ".jpf", ".jpx", ".j2c"]),
    ("MPO", [".mpo"]),
    ("PCX", [".pcx"]),
    ("PDF", [".pdf"]),
    ("PNG", [".png", ".apng"]),
    ("PPM", [".pbm", ".pgm", ".ppm", ".pnm", ".pfm"]),
    ("QOI", [".qoi"]),
    ("SGI", [".bw", ".rgb", ".rgba", ".sgi"]),
    ("TGA", [".tga", ".icb", ".vda", ".vst"]),
    ("TIFF", [".tif", ".tiff"]),
    ("WEBP", [".webp"]) ]

/-- The formats that can only be read, with their endings. -/
def readable : List (String × List String) :=
  [ ("CUR", [".cur"]),
    ("DCX", [".dcx"]),
    ("FITS", [".fit", ".fits"]),
    ("FLI", [".fli", ".flc"]),
    ("FTEX", [".ftc", ".ftu"]),
    ("GBR", [".gbr"]),
    ("IPTC", [".iim"]),
    ("MPEG", [".mpg", ".mpeg"]),
    ("PCD", [".pcd"]),
    ("PIXAR", [".pxr"]),
    ("PSD", [".psd"]),
    ("SUN", [".ras"]),
    ("XPM", [".xpm"]) ]

/-- The formats without colours, with their endings. -/
def colourless : List (String × List String) :=
  [("MSP", [".msp"]), ("Palm", [".palm"]), ("XBM", [".xbm"])]

/-- The formats whose colours are numbers of a list, with their endings. -/
def listed : List (String × List String) :=
  [("BLP", [".blp"])]

/-- The formats that are written by something that is not there, with their endings. -/
def external : List (String × List String) :=
  [("BUFR", [".bufr"]), ("GRIB", [".grib"]), ("HDF5", [".h5", ".hdf"]), ("WMF", [".wmf", ".emf"])]

/-- Formats that all take the same, with their endings. -/
def group (support : Support) (formats : List (String × List String)) :
    List (List String × Format) :=
  formats.map fun format => (format.2, ⟨format.1, support⟩)

/-- The formats with the endings of their files. -/
def all : List (List String × Format) :=
  group .full writable ++ group .readOnly readable ++ group .noColours colourless ++
    group .listedColours listed ++ group .noWriter external

/-- The ending of a file name in small letters: from the last dot of its last part, unless only
dots come before it. -/
def extension (fileName : String) : String :=
  let reversed := fileName.toList.reverse.takeWhile (· != '/')
  let ending := reversed.takeWhile (· != '.')
  let stem := (reversed.drop (ending.length + 1)).dropWhile (· == '.')
  if stem.isEmpty then "" else SmallLetter.ofText ("." ++ String.ofList ending.reverse)

/-- The format that goes with an ending. A format that can only be read is refused at once. -/
def find (ending : String) : Except HostFailure Format :=
  match all.find? (·.1.contains ending) with
  | some (_, ⟨name, .readOnly⟩) => .error ⟨.name, Quoted.text name⟩
  | some (_, format) => .ok format
  | none => .error ⟨.value, "unknown file extension: " ++ ending⟩

/-- Whether a picture of three channels can be written in a format. -/
def check (format : Format) : Except HostFailure Unit :=
  match format.support with
  | .full => .ok ()
  | .readOnly => .error ⟨.name, Quoted.text format.name⟩
  | .noColours => .error ⟨.device, "cannot write mode RGB as " ++ format.name⟩
  | .listedColours => .error ⟨.value, "Unsupported " ++ format.name ++ " image mode"⟩
  | .noWriter => .error ⟨.device, format.name ++ " save handler not installed"⟩

end Format

end Chip8
