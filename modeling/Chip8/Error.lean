import Chip8.Fault
import Chip8.Log.Level
import Chip8.Picture.Palette
import Chip8.Text.Decimal
import Chip8.Text.Listing
import Chip8.Text.Quoted

set_option autoImplicit false

/-!
# Errors

Everything that can go wrong around a machine, by cause, with the message that tells of it. Causes
of one nature are kept together: what stands in the way on a path, a number that is too large for
its place, a value of a kind that cannot be used, elements that cannot be arranged, a setting that
does not stand for a value. What fails in the host is told by the host itself.

## Main definitions

* `Chip8.Obstacle`, `Chip8.Overflow`, `Chip8.Misuse`, `Chip8.Misfit`, `Chip8.Unresolved`,
  `Chip8.HostFailure` — causes by nature.
* `Chip8.Error` — the causes.
* `Chip8.Error.message` — the message of a cause.

## Main results

* `Chip8.bind_eq_ok_iff` — when two steps that may fail succeed.
-/

namespace Chip8

/-! ## Causes by nature -/

/-- What stands in the way on a path. -/
inductive Obstacle where
  /-- There is nothing at a place. -/
  | missing
  /-- There is a file where a folder is needed. -/
  | notFolder
  /-- There is a folder where a file is needed. -/
  | isFolder
  /-- A name, or the whole path, is too long. -/
  | tooLong
  deriving DecidableEq, Repr

/-- How an obstacle is told. -/
def Obstacle.text : Obstacle → String
  | .missing => "[Errno 2] No such file or directory"
  | .notFolder => "[Errno 20] Not a directory"
  | .isFolder => "[Errno 21] Is a directory"
  | .tooLong => "[Errno 36] File name too long"

/-- A number that is too large for its place, in either direction. -/
inductive Overflow where
  /-- A colour channel is not a byte. -/
  | channel (value : Int)
  /-- An operand of a loop's arithmetic is not a word of thirty-two bits. -/
  | operand (name : String) (value : Int)
  /-- An integer is not a word of sixty-four bits. -/
  | word
  /-- A number of repetitions is not a word of sixty-four bits. -/
  | repetition
  /-- A repeated text has a length that is not a word of sixty-four bits. -/
  | length
  /-- A number of cycles has no floating-point number. -/
  | cycles
  /-- A reading of the clock has no floating-point number of seconds. -/
  | clock
  deriving DecidableEq, Repr

/-- How an overflow is told. -/
def Overflow.text : Overflow → String
  | .channel value => "Python integer " ++ toString value ++ " out of bounds for uint8"
  | .operand name value =>
    "An overflow was encountered while parsing an argument to a jitted computation, " ++
      "whose argument path is " ++ name ++ ". Got <class 'int'> with value " ++ toString value
  | .word => "Python int too large to convert to C long"
  | .repetition => "cannot fit 'int' into an index-sized integer"
  | .length => "repeated string is too long"
  | .cycles => "int too large to convert to float"
  | .clock => "integer division result too large for a float"

/-- A value, told by its kind, that is used as a value of its kind cannot be. -/
inductive Misuse where
  /-- A product of two values that are not both numbers. -/
  | product (left right : String)
  /-- A text is repeated, but not a number of times. -/
  | repetition (kind : String)
  /-- A value is compared with a number. -/
  | comparison (kind : String)
  /-- A value counts how often something is done. -/
  | count (kind : String)
  /-- A value names a file. -/
  | fileName (kind : String)
  /-- The extents of a window are not numbers, or beyond all bounds. -/
  | windowSize
  /-- A setting is given that has been given already. -/
  | repeatedSetting (name : String)
  /-- A setting of a bar is given that the report decides for itself. -/
  | repeatedBarSetting (name : String)
  deriving DecidableEq, Repr

/-- How a misuse is told. -/
def Misuse.text : Misuse → String
  | .product left right =>
    "unsupported operand type(s) for *: '" ++ left ++ "' and '" ++ right ++ "'"
  | .repetition kind => "can't multiply sequence by non-int of type '" ++ kind ++ "'"
  | .comparison kind => "'>' not supported between instances of '" ++ kind ++ "' and 'int'"
  | .count kind => "'" ++ kind ++ "' object cannot be interpreted as an integer"
  | .fileName kind => "expected str, bytes or os.PathLike object, not " ++ kind
  | .windowSize => "size must be two numbers"
  | .repeatedSetting name =>
    "scan_with_progress() got multiple values for argument '" ++ name ++ "'"
  | .repeatedBarSetting name =>
    "tqdm.std.tqdm() got multiple values for keyword argument '" ++ name ++ "'"

/-- Why elements cannot be arranged as asked for. -/
inductive Misfit where
  /-- Parts of one depth differ in length, or are rows and elements; the extents that come before
  are told. -/
  | ragged (extents : List Nat)
  /-- There are more extents than an arrangement can have. -/
  | tooManyExtents (most : Nat)
  deriving DecidableEq, Repr

/-- How it is told why elements cannot be arranged. -/
def Misfit.text : Misfit → String
  | .ragged extents =>
    "setting an array element with a sequence. The requested array has an inhomogeneous shape " ++
      "after " ++ toString extents.length ++ " dimensions. The detected shape was " ++
      Listing.shape extents ++ " + inhomogeneous part."
  | .tooManyExtents most =>
    "setting an array element with a sequence. The requested array would exceed the maximum " ++
      "number of dimension of " ++ toString most ++ "."

/-- Why a setting does not stand for a value. -/
inductive Unresolved where
  /-- The setting must be given before it is used. -/
  | missing
  /-- There is no setting at the end of a path. -/
  | noSetting (path : String)
  /-- A setting at the end of a path must be given before it is used. -/
  | missingTarget (name : String)
  /-- A setting on a path has no parts. -/
  | noParts (path name part : String)
  /-- A path leads above all settings. -/
  | aboveAll (path : String)
  /-- A setting refers to itself, be it in several steps. -/
  | circular
  /-- There is no function of such a name. -/
  | noFunction (name : String)
  /-- There is no variable of such a name. -/
  | noVariable (name : String)
  deriving DecidableEq, Repr

/-- How it is told why the setting of a name does not stand for a value. -/
def Unresolved.text (name : String) (cause : Unresolved) : String :=
  let reason :=
    match cause with
    | .missing => "Missing mandatory value: " ++ name
    | .noSetting path => "Interpolation key '" ++ path ++ "' not found"
    | .missingTarget target =>
      "MissingMandatoryValue while resolving interpolation: Missing mandatory value: " ++ target
    | .noParts path target part =>
      "ConfigTypeError raised while resolving interpolation: Error trying to access " ++ path ++
        ": node `" ++ target ++ "` is not a container and thus cannot contain `" ++ part ++ "``"
    | .aboveAll path =>
      "ConfigKeyError while resolving interpolation: Error resolving key '" ++ path ++ "'"
    | .circular => "Recursive interpolation detected"
    | .noFunction function => "Unsupported interpolation type " ++ function
    | .noVariable unset =>
      "KeyError raised while resolving interpolation: " ++
        Quoted.text ("Environment variable '" ++ unset ++ "' not found")
  reason ++ "\n    full_key: " ++ name ++ "\n    object_type=dict"

/-- The kinds of failures of a host. -/
inductive HostFailure.Kind where
  /-- A value is none of those that are taken. -/
  | value
  /-- A value is of a kind that is not taken. -/
  | kind
  /-- A text is not well written. -/
  | grammar
  /-- There is no room left. -/
  | room
  /-- There is nothing under a name. -/
  | name
  /-- A device or a file does not do what it is asked for. -/
  | device
  /-- The screen does not show what it is asked for. -/
  | screen
  deriving DecidableEq, Repr

/-- What fails in a host, in the words of the host. -/
structure HostFailure where
  /-- The kind of the failure. -/
  kind : HostFailure.Kind
  /-- How it is told. -/
  text : String
  deriving DecidableEq, Repr

/-! ## All causes -/

/-- What went wrong. -/
inductive Error where
  /-- The machine stopped. -/
  | fault (report : Fault)
  /-- A program is larger than the memory left for programs. -/
  | romTooLarge (size capacity : Int)
  /-- A key number is not one of the sixteen. -/
  | keyOutOfRange (key : Int)
  /-- Key states are not arranged as one row of sixteen. -/
  | keypadShape (extents : List Nat)
  /-- A palette has no such name. -/
  | unknownPalette (name : String)
  /-- A level has no such name. -/
  | unknownLevel (name : String)
  /-- Pixels are not arranged as a screen. -/
  | displayShape (extents : List Nat)
  /-- A number is too large for its place. -/
  | overflow (cause : Overflow)
  /-- A value is used that cannot be. -/
  | misuse (cause : Misuse)
  /-- Elements cannot be arranged as asked for. -/
  | misfit (cause : Misfit)
  /-- Something of the given kind has nothing of the given name. -/
  | noAttribute (kind name : String)
  /-- Something stands in the way on a path. -/
  | blocked (obstacle : Obstacle) (path : String)
  /-- A path holds a character that no name can hold. -/
  | nullInPath
  /-- There is no seed. -/
  | noSeed
  /-- A setting does not stand for a value. -/
  | unresolved (name : String) (cause : Unresolved)
  /-- A numeral has too many digits, which were counted or not. -/
  | tooManyDigits (digits? : Option Nat)
  /-- A division by zero. -/
  | divisionByZero
  /-- An argument is about a setting of a name that there is not. -/
  | unknownSetting (name argument : String)
  /-- An argument holds a reference that is not well written, or is about a part of a setting that
  must still be given. -/
  | badAssignment (argument : String)
  /-- Something fails in the host. -/
  | host (failure : HostFailure)
  /-- Something else that is told in its own words. -/
  | invalid (text : String)
  deriving DecidableEq, Repr

/-- The message of a cause. -/
def Error.message : Error → String
  | .fault report => report.message
  | .romTooLarge size capacity =>
    "ROM is " ++ toString size ++ " bytes but only " ++ toString capacity ++
      " bytes fit in memory"
  | .keyOutOfRange key => "Key must be in 0-15, got " ++ toString key
  | .keypadShape extents => "Expected 16 key states, got shape " ++ Listing.shape extents
  | .unknownPalette name =>
    "Unknown color scheme '" ++ name ++ "'. Available: " ++
      Listing.names (Palette.all.map Prod.fst)
  | .unknownLevel name =>
    "Unknown log level '" ++ name ++ "'. Available: " ++ Listing.names (Level.all.map Level.name)
  | .displayShape extents =>
    "Expected display shape (64, 32), got " ++ Listing.shape extents
  | .overflow cause => cause.text
  | .misuse cause => cause.text
  | .misfit cause => cause.text
  | .noAttribute kind name => "'" ++ kind ++ "' object has no attribute '" ++ name ++ "'"
  | .blocked obstacle path => obstacle.text ++ ": " ++ Quoted.text path
  | .nullInPath => "embedded null byte"
  | .noSeed => "None is not a valid value for jnp.array"
  | .unresolved name cause => cause.text name
  | .tooManyDigits digits? => Decimal.tooManyDigits digits?
  | .divisionByZero => "integer division or modulo by zero"
  | .unknownSetting name argument =>
    "Could not override '" ++ name ++ "'.\nTo append to your config use +" ++ argument
  | .badAssignment argument => "Error merging override " ++ argument
  | .host failure => failure.text
  | .invalid text => text

/-- The error of an overflow. A number that cannot even be written is told as such. -/
def Overflow.error : Overflow → Error
  | .operand name value =>
    if Decimal.isWritable value then .overflow (.operand name value) else .tooManyDigits none
  | cause => .overflow cause

/-! ## Steps that may fail -/

/-- Two steps succeed exactly if the first does and then the second. -/
theorem bind_eq_ok_iff {ε α β : Type} {x : Except ε α} {f : α → Except ε β} {b : β} :
    x >>= f = .ok b ↔ ∃ a, x = .ok a ∧ f a = .ok b := by
  cases x <;> simp [bind, Except.bind]

/-- A step after one that succeeds. -/
theorem ok_bind {ε α β : Type} (a : α) (f : α → Except ε β) : Except.ok a >>= f = f a :=
  pure_bind a f

/-- What is made of a success is a success exactly of what succeeds. -/
theorem map_eq_ok_iff {ε α β : Type} {x : Except ε α} {f : α → β} {b : β} :
    x.map f = .ok b ↔ ∃ a, x = .ok a ∧ f a = b := by
  cases x <;> simp [Except.map]

end Chip8
