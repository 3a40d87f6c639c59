import Chip8.Keypad
import Chip8.Text.Listing

set_option autoImplicit false

/-!
# Events of a session

What reaches a session from its surroundings: the wish to end it, and keys of a keyboard going down
and up. The left-hand block of the keyboard stands for the keypad.

## Main definitions

* `Chip8.Event` — an event.
* `Chip8.Event.ofText` — the event that a text names.
* `Chip8.keyOfKeyboard?` — the key of the keypad that a key of the keyboard stands for.
-/

namespace Chip8

/-- What reaches a session. Keys of the keyboard are named by what is printed on them. -/
inductive Event where
  /-- The session is asked to end. -/
  | quit
  /-- A key of the keyboard goes down. -/
  | down (key : String)
  /-- A key of the keyboard goes up. -/
  | up (key : String)
  /-- Something that a session takes no notice of. -/
  | other
  deriving DecidableEq, Repr

/-- The event that a text names: `quit`, `down:` and `up:` with the name of a key, and anything
else. -/
def Event.ofText (text : String) : Event :=
  match Listing.parts ':' text with
  | ["quit"] => .quit
  | "down" :: key => .down (":".intercalate key)
  | "up" :: key => .up (":".intercalate key)
  | _ => .other

/-- The keys of the keyboard in the order of the keys of the keypad that they stand for. -/
def keyboard : Vector String 16 :=
  #v["x", "1", "2", "3", "q", "w", "e", "a", "s", "d", "z", "c", "4", "r", "f", "v"]

/-- The key of the keypad that a key of the keyboard stands for. -/
def keyOfKeyboard? (key : String) : Option Key :=
  keyboard.finIdxOf? key

end Chip8
