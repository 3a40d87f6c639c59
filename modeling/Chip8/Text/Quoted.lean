import Chip8.Text.Printable

set_option autoImplicit false

/-!
# Quoted text

A text between quotes, written so that every character of it can be seen. The quotes are single
ones, or double ones if that saves marking a single quote in the text. A backslash stands before a
backslash and before the quote that the text is put in; a character that is not printable is given
by its code point, with as many digits as its size asks for.

## Main definitions

* `Chip8.Quoted.quoteFor` — the quote that a text is put in.
* `Chip8.Quoted.escaped` — how a character is written.
* `Chip8.Quoted.text` — a text in quotes.
-/

namespace Chip8.Quoted

/-- The digit of a number below sixteen: `0` to `9`, then `a` to `f`. -/
def digit (d : Nat) : Char :=
  if d < 10 then Char.ofNat (48 + d) else Char.ofNat (87 + d)

/-- The last `count` digits of a number to the base sixteen, most significant digit first. -/
def lastDigits : Nat → Nat → List Char
  | 0, _ => []
  | count + 1, n => lastDigits count (n / 16) ++ [digit (n % 16)]

/-- A character given by its code point: two digits after `x`, four after `u`, or eight after
`U`. -/
def codePoint (c : Char) : List Char :=
  if c.toNat < 0x100 then '\\' :: 'x' :: lastDigits 2 c.toNat
  else if c.toNat < 0x10000 then '\\' :: 'u' :: lastDigits 4 c.toNat
  else '\\' :: 'U' :: lastDigits 8 c.toNat

/-- How a character is written inside the given quotes. -/
def escaped (quote c : Char) : List Char :=
  if c = quote ∨ c = '\\' then ['\\', c]
  else if c = '\t' then ['\\', 't']
  else if c = '\n' then ['\\', 'n']
  else if c = '\r' then ['\\', 'r']
  else if Printable.holds c then [c]
  else codePoint c

/-- The quote that a text is put in: a double one if there are single quotes in the text and no
double ones, and else a single one. -/
def quoteFor (chars : List Char) : Char :=
  if chars.contains '\'' && !chars.contains '"' then '"' else '\''

/-- The characters of a text in quotes. -/
def chars (cs : List Char) : List Char :=
  quoteFor cs :: cs.flatMap (escaped (quoteFor cs)) ++ [quoteFor cs]

/-- A text in quotes. -/
def text (s : String) : String :=
  String.ofList (chars s.toList)

end Chip8.Quoted
