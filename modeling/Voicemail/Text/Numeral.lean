import Voicemail.Text.Character

/-!
# Integer numerals

`readInt?` reads an integer the way the command line, the PIN policy and the settings do: blanks
around it, an optional sign, and decimal digits of any script between which single underscores may
stand. A numeral of more than 4300 digits is refused. `Word.fits` tells the integers that a signed
word of 64 bits can hold.
-/

namespace Voicemail

/-- The number of words that are not negative. -/
def Word.bound : Nat := Nat.pow 2 63

/-- Whether an integer fits into a word. -/
def Word.fits (n : Int) : Bool := -Int.ofNat Word.bound ≤ n && n < Int.ofNat Word.bound

namespace Text

/-- The most digits a numeral may have, leading zeros included. -/
def maxNumeralDigits : Nat := 4300

/-- The wording for a numeral of too many digits. -/
def tooManyDigits (count : Nat) : String :=
  s!"Exceeds the limit ({maxNumeralDigits} digits) for integer string conversion: value has " ++
    s!"{count} digits; use sys.set_int_max_str_digits() to increase the limit"

/-- The digit values of a run of digits with single underscores between them; nothing if the run
is empty or an underscore stands at an end or next to another. -/
def digitRun? : List Char → Option (List Nat)
  | [] => none
  | [c] => (decimal? c).map ([·])
  | c :: '_' :: rest => do return (← decimal? c) :: (← digitRun? rest)
  | c :: rest => do return (← decimal? c) :: (← digitRun? rest)

/-- The number that digit values write, most significant first. -/
def ofDigitValues (ds : List Nat) : Nat := ds.foldl (fun n d => 10 * n + d) 0

/-- The natural number of an unsigned numeral. -/
def readNat? (s : List Char) : Option Nat := do
  let ds ← digitRun? s
  if maxNumeralDigits < ds.length then none else some (ofDigitValues ds)

/-- The integer of a numeral, with blanks around it and a sign before it. -/
def readInt? (s : List Char) : Option Int :=
  match trimBy isNumeralBlank s with
  | '+' :: digits => (readNat? digits).map Int.ofNat
  | '-' :: digits => (readNat? digits).map fun n => -Int.ofNat n
  | digits => (readNat? digits).map Int.ofNat

/-- The numeral of an integer. -/
def writeInt : Int → List Char
  | .ofNat n => Nat.toDigits 10 n
  | .negSucc n => '-' :: Nat.toDigits 10 (n + 1)

end Text

end Voicemail
