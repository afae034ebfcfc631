import Voicemail.Number.Binary64

/-!
# Numerals of doubles

`Binary64.read?` reads a double: an optional sign, then `inf`, `infinity` or `nan` in letters of
either case, or decimal digits with a point among or around them and an exponent after them. The
double is the one nearest to the number.
-/

namespace Voicemail.Binary64

/-- The exponent that a text writes, all of it: a mark, an optional sign and digits. -/
def readExponent? : List Char → Option Int
  | [] => some 0
  | mark :: s =>
    if mark = 'e' || mark = 'E' then
      let (negative, digits) := match s with
        | '-' :: r => (true, r)
        | '+' :: r => (false, r)
        | r => (false, r)
      if digits.isEmpty || !digits.all Char.isDigit then none
      else
        let n := Int.ofNat (Nat.ofDigitChars 10 digits 0)
        some (if negative then -n else n)
    else none

/-- The digits after a point, if a point follows, and the rest. -/
def spanFraction : List Char → List Char × List Char
  | '.' :: s => s.span Char.isDigit
  | s => ([], s)

/-- The double of an unsigned numeral of digits. -/
def readDigits? (negative : Bool) (s : List Char) : Option Binary64 := do
  let (whole, rest) := s.span Char.isDigit
  let (fraction, rest) := spanFraction rest
  let exponent ← readExponent? rest
  if whole.isEmpty && fraction.isEmpty then none
  else
    let digits := Nat.ofDigitChars 10 (whole ++ fraction) 0
    some (ofDecimal negative digits (exponent - Int.ofNat fraction.length))

/-- The double of a numeral without its sign. -/
def readMagnitude? (negative : Bool) (s : List Char) : Option Binary64 :=
  let word := String.ofList (s.map Char.toLower)
  if word = "inf" || word = "infinity" then some (.infinite negative)
  else if word = "nan" then some .nan
  else readDigits? negative s

/-- The double of a numeral. -/
def read? : List Char → Option Binary64
  | '-' :: s => readMagnitude? true s
  | '+' :: s => readMagnitude? false s
  | s => readMagnitude? false s

end Voicemail.Binary64
