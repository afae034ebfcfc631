import Voicemail.Text.Printable

/-!
# Quoted text

How messages show a text: between single quotes, or between double quotes when the text has a
single quote and no double one. Backslash and the chosen quote are escaped, the three usual
controls have a letter, and every other character that does not print is written by its number
in two, four or eight hexadecimal digits.
-/

namespace Voicemail.Text

/-- The last `width` hexadecimal digits of a number, in front of `acc`. -/
def hexDigitsAux : Nat → Nat → List Char → List Char
  | 0, _, acc => acc
  | width + 1, n, acc => hexDigitsAux width (n / 16) (Nat.digitChar (n % 16) :: acc)

/-- The last `width` hexadecimal digits of a number, in lower case. -/
def hexDigits (width n : Nat) : List Char := hexDigitsAux width n []

/-- The escape of a character by its number. -/
def numericEscape (c : Char) : List Char :=
  let n := c.toNat
  if n < 0x100 then '\\' :: 'x' :: hexDigits 2 n
  else if n < 0x10000 then '\\' :: 'u' :: hexDigits 4 n
  else '\\' :: 'U' :: hexDigits 8 n

/-- One character of quoted text; `plain` are the characters that stand for themselves. -/
def quoteChar (plain : Char → Bool) (mark : Char) (c : Char) : List Char :=
  if c = mark || c = '\\' then ['\\', c]
  else if c = '\t' then ['\\', 't']
  else if c = '\n' then ['\\', 'n']
  else if c = '\r' then ['\\', 'r']
  else if plain c then [c]
  else numericEscape c

/-- The mark that needs no escape where one of the two does not. -/
def quoteMark (s : List Char) : Char :=
  if s.contains '\'' && !s.contains '"' then '"' else '\''

/-- A text between quotes, with `plain` the characters that stand for themselves. -/
def quoteBy (plain : Char → Bool) (s : List Char) : List Char :=
  let mark := quoteMark s
  mark :: s.flatMap (quoteChar plain mark) ++ [mark]

/-- A text between quotes, as messages show it. -/
def quoted (s : String) : String := String.ofList (quoteBy isPrintable s.toList)

/-- Whether a character prints and is ASCII. -/
def isPrintableAscii (c : Char) : Bool := 32 ≤ c.toNat && c.toNat < 127

end Voicemail.Text
