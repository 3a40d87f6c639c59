import Chip8.Host
import Chip8.Setting
import Chip8.Word

set_option autoImplicit false

/-!
# Values in use

A setting may hold a value of any kind, and whether it can be used shows only where it is used.
Truth values are numbers everywhere. A text can be repeated a number of times, and then is no
number of cycles and no extent of a window; nothing at all can hardly be used. How a text is refused
that stands for a seed or a number of cycles is up to the host.

## Main definitions

* `Chip8.Value.levelName`, `Chip8.Value.fileName` — the text of a name.
* `Chip8.Value.seed` — a seed.
* `Chip8.Value.cycles` — the number of cycles in a number of frames.
* `Chip8.Value.sideOfPixel`, `Chip8.Value.sideInWindow` — the size of a pixel.
* `Chip8.Value.count` — how often something is done.
-/

namespace Chip8.Value

/-! ## Names -/

/-- The name of a level. -/
def levelName : Value → Except Error String
  | text s => .ok s
  | v => .error (.noAttribute v.kind "upper")

/-- The name of a file. -/
def fileName : Value → Except Error String
  | text s => .ok s
  | v => .error (.misuse (.fileName v.kind))

/-! ## Numbers -/

/-- A seed. -/
def seed (host : Host) : Value → Except Error Int
  | nothing | missing | template _ => .error .noSeed
  | text s => .error (host.refuseSeed s)
  | truth b => .ok b.toInt
  | integer n => .ok n

/-- A text a number of times in a row, if that is not too long. A number that is not positive leaves
nothing of the text. -/
def rowOfTexts (host : Host) (s : String) (times : Int) : Except Error String :=
  let length := s.length * times.toNat
  if !Word.fits64 times then .error (.overflow .repetition)
  else if !Word.fits64 length then .error (.overflow .length)
  else if length = 0 then .ok ""
  else
    match host.textHindrance? length with
    | some error => .error error
    | none => .ok (String.join (List.replicate times.toNat s))

/-- The error of a text that is repeated and then used as a number of cycles. -/
def repeated (host : Host) (s : String) (times : Value) : Error :=
  match times.number? with
  | some n =>
    match rowOfTexts host s n with
    | .ok row => host.refuseCycles row
    | .error error => error
  | none => .misuse (.repetition times.kind)

/-- The number of cycles in a number of frames with a number of instructions each. -/
def cycles (host : Host) (frames perFrame : Value) : Except Error Int :=
  match frames, perFrame with
  | text s, _ => .error (repeated host s perFrame)
  | _, text s => .error (repeated host s frames)
  | _, _ =>
    match frames.number?, perFrame.number? with
    | some n, some k => .ok (n * k)
    | _, _ => .error (.misuse (.product frames.kind perFrame.kind))

/-- The size of a pixel in a picture. It is compared with one. -/
def sideOfPixel (v : Value) : Except Error Int :=
  match v.number? with
  | some n => .ok n
  | none => .error (.misuse (.comparison v.kind))

/-- The size of a pixel in a window. It is a factor of the extents. -/
def sideInWindow (v : Value) : Except Error Int :=
  match v with
  | text _ => .error (.misuse .windowSize)
  | _ =>
    match v.number? with
    | some n => .ok n
    | none => .error (.misuse (.product (integer 1).kind v.kind))

/-- How often something is done. -/
def count (v : Value) : Except Error Int :=
  match v.number? with
  | some n => .ok n
  | none => .error (.misuse (.count v.kind))

end Chip8.Value
