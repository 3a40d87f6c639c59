import Chip8.Error
import Chip8.Template
import Chip8.Text.Numeral

set_option autoImplicit false

/-!
# Settings

A setting is a name with a value. A value is nothing, a truth value, an integer or a text, or it
must still be given; the written form of a value is read back by its looks. In a written value a
backslash before a mark stands for the mark alone, and blanks at the ends do not count, but for
those that belong to a colon. A value between quotes is a text whatever its looks. A text may refer
to other settings, and then stands for what they hold.

## Main definitions

* `Chip8.Value` — the value of a setting.
* `Chip8.Value.kind` — the name of the kind of a value.
* `Chip8.Value.written` — how a value is written.
* `Chip8.Value.unmarked`, `Chip8.Value.quoted?` — a written value without its marks or quotes.
* `Chip8.Value.read` — the value that a text stands for.
* `Chip8.Settings` — settings in order.
* `Chip8.Settings.get` — what a setting stands for.
-/

namespace Chip8

/-- The value of a setting. -/
inductive Value where
  /-- No value. -/
  | nothing
  /-- A value that must still be given. -/
  | missing
  /-- A truth value. -/
  | truth (b : Bool)
  /-- An integer. -/
  | integer (n : Int)
  /-- A text. -/
  | text (s : String)
  /-- A text with references to settings. -/
  | template (t : Template)
  deriving DecidableEq, Repr

namespace Value

/-- The name of the kind of a value. -/
def kind : Value → String
  | nothing => "NoneType"
  | truth _ => "bool"
  | integer _ => "int"
  | missing | text _ | template _ => "str"

/-- How a value is written. -/
def written : Value → String
  | nothing => "None"
  | missing => "???"
  | truth true => "True"
  | truth false => "False"
  | integer n => toString n
  | text s => s
  | template t => t.written

/-! ## Numerals -/

/-- The digits of a numeral, without a leading zero and with single underscores between digits
left out. -/
def digits? (chars : List Char) : Option (List Char) :=
  let parts := Listing.parts '_' (String.ofList chars)
  let digits := (parts.map String.toList).flatten
  if parts.any String.isEmpty || !digits.all Char.isDigit then none
  else if digits.head? = some '0' && digits.length ≠ 1 then none
  else some digits

/-- The sign of a number, if one is written, and what follows it. -/
def splitSign : List Char → Bool × List Char
  | '-' :: digits => (true, digits)
  | '+' :: digits => (false, digits)
  | digits => (false, digits)

/-- The integer of a sign and digits. There must not be too many of them. -/
def ofDigits (isNegative : Bool) (digits : List Char) : Except Error Value :=
  if Decimal.mostDigits < digits.length then .error (.tooManyDigits (some digits.length))
  else
    let magnitude := Numeral.value digits
    .ok (integer (if isNegative then -(magnitude : Int) else magnitude))

/-! ## Written values -/

/-- Whether a character is a blank between marks. -/
def isBlank (c : Char) : Bool :=
  c == ' ' || c == '\t'

/-- Whether a backslash before a character stands for the character alone. -/
def isMarked (c : Char) : Bool :=
  isBlank c || ['\\', '(', ')', '[', ']', '\x7b', '\x7d', ':', '=', ','].contains c

/-- The characters of a written value, and for each whether it was written with a backslash. -/
def marks : List Char → List (Char × Bool)
  | '\\' :: c :: rest =>
    if isMarked c then (c, true) :: marks rest else ('\\', false) :: marks (c :: rest)
  | c :: rest => (c, false) :: marks rest
  | [] => []

/-- A written value without its marks. Blanks at the ends are dropped, but those behind a colon
belong to it. -/
def unmarked (written : String) : String :=
  let chars := marks (written.toList.dropWhile isBlank)
  let kept := chars.reverse.dropWhile fun c => isBlank c.1 && !c.2
  let chars := if kept.head? = some (':', false) then chars else kept.reverse
  String.ofList (chars.map Prod.fst)

/-- Characters up to a quote behind which nothing follows. Backslashes in front of a quote stand for
half as many, and an odd one makes the quote mere text. So many backslashes have been passed. -/
def untilQuote? (quote : Char) (slashes : Nat) : List Char → Option (List Char)
  | [] => none
  | '\\' :: rest => untilQuote? quote (slashes + 1) rest
  | c :: rest =>
    if c = quote then
      let kept := List.replicate (slashes / 2) '\\'
      if slashes % 2 = 1 then (untilQuote? quote 0 rest).map (kept ++ c :: ·)
      else if rest.isEmpty then some kept
      else none
    else (untilQuote? quote 0 rest).map (List.replicate slashes '\\' ++ c :: ·)

/-- The text between quotes that a written value is, if it is one. -/
def quoted? (written : String) : Option String :=
  match Reference.trimmed written.toList with
  | c :: rest =>
    if c = '\x27' || c = '\x22' then (untilQuote? c 0 rest).map String.ofList else none
  | [] => none

/-- The value of a text that is not looked at further: three question marks must still be given. -/
def ofText (s : String) : Value :=
  if s = "???" then missing else text s

/-- The value that a text stands for: an integer, a truth value or nothing by their names in any
case, and else a text. -/
def read (written : String) : Except Error Value :=
  match quoted? written with
  | some s => .ok (ofText s)
  | none =>
    let s := unmarked written
    let (isNegative, chars) := splitSign s.toList
    match digits? chars with
    | some digits => ofDigits isNegative digits
    | none =>
      let small := s.toLower
      if small = "true" then .ok (truth true)
      else if small = "false" then .ok (truth false)
      else if small = "null" then .ok nothing
      else .ok (ofText s)

/-- A value with the references in its text found, if they are well written. -/
def linked? : Value → Option Value
  | text s => if Template.refers s then (Template.ofText? s).map template else some (text s)
  | value => some value

/-- Whether a value counts as yes: truth, a number other than zero, a text that is not empty. -/
def isYes : Value → Bool
  | nothing => false
  | missing | template _ => true
  | truth b => b
  | integer n => n != 0
  | text s => !s.isEmpty

/-- The number that a value stands for; truth counts as one and untruth as zero. -/
def number? : Value → Option Int
  | integer n => some n
  | truth b => some (if b then 1 else 0)
  | _ => none

end Value

/-- Settings in the order in which they are shown. -/
abbrev Settings := List (String × Value)

namespace Settings

/-- The value of a setting; a setting that is missing has no value. -/
def value (settings : Settings) (name : String) : Value :=
  (settings.lookup name).getD .nothing

/-- Changes the value of a setting that exists. -/
def assign? (settings : Settings) (name : String) (value : Value) : Option Settings :=
  if settings.any (·.1 == name) then
    some (settings.map fun setting => if setting.1 == name then (name, value) else setting)
  else none

/-! ## What a setting stands for -/

/-- What a reference stands for, where a setting with references stands for what is told. Settings
have no parts, and there is nothing above them all. The only function looks up a variable of the
environment, of which there are none, so that its second argument counts. -/
def follow (settings : Settings) (standsFor : String → Template → Except Unresolved Value) :
    Reference → Except Unresolved Value
  | .function "oc.env" [unset] => .error (.noVariable unset)
  | .function "oc.env" [_, other] => .ok (if other.toLower = "null" then .nothing else .text other)
  | .function name _ => .error (.noFunction name)
  | .path points written parts => do
    if 1 < points then throw (.aboveAll (String.ofList (List.replicate points '.') ++ written))
    let name := parts.headD ""
    let value ←
      match settings.lookup name with
      | none => throw (.noSetting written)
      | some .missing => throw (.missingTarget name)
      | some (.template t) => standsFor name t
      | some value => pure value
    match parts with
    | _ :: part :: _ => throw (.noParts (".".intercalate parts) name part)
    | _ => return value

/-- What a template stands for when its references are followed: a single reference for its target,
and anything else for a text. -/
def fill (follow : Reference → Except Unresolved Value) (t : Template) : Except Unresolved Value :=
  match t.pieces with
  | [.reference target] => follow target
  | pieces => do
    let texts ← pieces.mapM fun
      | .plain text => pure text
      | .reference target => do return (← follow target).written
    return .text (String.join texts)

/-- What a setting with references stands for, when references can be followed in so many steps and
the given settings must not be met again. -/
def resolve (settings : Settings) :
    Nat → List String → String → Template → Except Unresolved Value
  | 0, _, _, _ => .error .circular
  | steps + 1, met, name, t =>
    if met.contains name then .error .circular
    else fill (follow settings (resolve settings steps (name :: met))) t

/-- What a setting stands for. It must have been given, and so must be all that it refers to. -/
def get (settings : Settings) (name : String) : Except Error Value :=
  let value : Except Unresolved Value :=
    match settings.value name with
    | .missing => .error .missing
    | .template t => resolve settings (settings.length + 1) [] name t
    | value => .ok value
  match value with
  | .ok value => .ok value
  | .error cause => .error (.unresolved name cause)

/-- What a setting stands for, or nothing if it stands for no value. -/
def target (settings : Settings) (name : String) : Value :=
  (settings.get name).toOption.getD .nothing

end Settings

end Chip8
