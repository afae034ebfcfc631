import Voicemail.Issue
import Voicemail.Json.Value
import Voicemail.Number.Numeral
import Voicemail.Text.Numeral

/-!
# Lenient reading of values

An input that asks for a switch, a number or a text is content with a value of another kind that
plainly means one: the text `yes` for a switch, the text `5` for an integer. Each function gives the
value that was meant, or says what is wrong.
-/

namespace Voicemail.Lenient

/-- The words for a switch that is on. -/
def onWords : List String := ["1", "on", "t", "true", "y", "yes"]

/-- The words for a switch that is off. -/
def offWords : List String := ["0", "off", "f", "false", "n", "no"]

/-- A switch out of a word, in letters of either case. -/
def boolWord (s : String) : Except Complaint Bool :=
  let word := String.ofList (s.toList.map Char.toLower)
  if onWords.contains word then .ok true
  else if offWords.contains word then .ok false
  else .error .boolParsing

/-- A switch out of an integer: zero or one. -/
def boolInt (n : Int) : Except Complaint Bool :=
  if n = 0 then .ok false
  else if n = 1 then .ok true
  else if Word.fits n then .error .boolParsing
  else .error .boolType

/-- An integer out of a double, which has to be whole and less than the bound of words in size. -/
def intFloat (x : Binary64) : Except Complaint Int :=
  match x with
  | .nan | .infinite _ => .error .finiteNumber
  | .finite _ _ _ =>
    match x.toInt? with
    | none => .error .intFromFloat
    | some n => if n.natAbs < Word.bound then .ok n else .error .intParsingSize

/-- A switch. -/
def bool : Json → Except Complaint Bool
  | .bool b => .ok b
  | .str s => boolWord s
  | .int n => boolInt n
  | .float x =>
    match intFloat x with
    | .ok n => boolInt n
    | .error _ => .error .boolType
  | _ => .error .boolType

/-- Digits, of which the first is a zero only if it stands alone. -/
def isStrictDigits (ds : List Char) : Bool :=
  !ds.isEmpty && ds.all Char.isDigit && (ds.length = 1 || ds.head? ≠ some '0')

/-- An integer in its strict form: a minus sign or none, and digits without a leading zero. -/
def strictInt? (s : List Char) : Option Int :=
  let (negative, digits) := match s with
    | '-' :: r => (true, r)
    | r => (false, r)
  if isStrictDigits digits && digits.length ≤ Text.maxNumeralDigits then
    let n := Int.ofNat (Nat.ofDigitChars 10 digits 0)
    some (if negative then -n else n)
  else none

/-- Whether a text starts, after a minus sign or none, with more digits than a numeral may have and
no zero before them. -/
def startsTooLong (s : List Char) : Bool :=
  let digits := (if s.head? = some '-' then s.tail else s).takeWhile Char.isDigit
  digits.head? ≠ some '0' && Text.maxNumeralDigits < digits.length

/-- What follows the zeros and underscores that a numeral starts with, where `last` is the one
before: a number with its digits or its minus sign, or the last zero before a point or the end. -/
def afterZeros : Char → List Char → Option (List Char)
  | last, [] => some [last]
  | last, c :: rest =>
    if c = '0' || c = '_' then afterZeros c rest
    else if ('1' ≤ c && c ≤ '9') || c = '-' then some (c :: rest)
    else if c = '.' then some (last :: c :: rest)
    else none

/-- A numeral without the zeros it starts with. Nothing else than a numeral starts with anything
but a digit. -/
def dropLeadingZeros : List Char → Option (List Char)
  | [] => none
  | '0' :: rest => afterZeros '0' rest
  | c :: rest => if '1' ≤ c && c ≤ '9' then some (c :: rest) else none

/-- A numeral without blanks around it, without a plus sign, and without the zeros that stand
before its number. -/
def tidySign (s : List Char) : Option (List Char) :=
  match Text.trimBy Text.isNumeralBlank s with
  | '+' :: '-' :: _ => none
  | '+' :: rest => dropLeadingZeros rest
  | '-' :: rest => (dropLeadingZeros rest).map ('-' :: ·)
  | rest => dropLeadingZeros rest

/-- A numeral without a fraction of zeros, which has one zero at least. -/
def dropZeroFraction (s : List Char) : List Char :=
  let (whole, fraction) := s.span (· ≠ '.')
  match fraction with
  | '.' :: '0' :: zeros => if zeros.all (· = '0') then whole else s
  | _ => s

/-- A numeral without the single underscores between its characters. -/
def dropUnderscores (s : List Char) : List Char :=
  if s.head? = some '_' || s.getLast? = some '_' || hasPair s then s else s.filter (· ≠ '_')
where
  /-- Whether two underscores stand side by side. -/
  hasPair : List Char → Bool
    | '_' :: '_' :: _ => true
    | _ :: rest => hasPair rest
    | [] => false

/-- An integer out of a text. A text in the strict form is taken as it stands, and refused for its
size if it is too long; any other is tidied first: blanks around it, a plus sign, leading zeros, a
fraction of zeros and single underscores are passed over. -/
def intText (s : String) : Except Complaint Int :=
  let cs := s.toList
  if startsTooLong cs then .error .intParsingSize
  else
    let tidied? := (tidySign cs).bind fun digits =>
      strictInt? (dropUnderscores (dropZeroFraction digits))
    match strictInt? cs <|> tidied? with
    | some n => .ok n
    | none => .error .intParsing

/-- An integer. -/
def int : Json → Except Complaint Int
  | .int n => .ok n
  | .bool b => .ok (if b then 1 else 0)
  | .str s => intText s
  | .float x => intFloat x
  | _ => .error .intType

/-- A double out of a text. -/
def floatText (s : String) : Except Complaint Binary64 :=
  match Binary64.read? (Text.trimBy Text.isNumeralBlank s.toList) with
  | some x => .ok x
  | none =>
    if s.toList.contains '_' then
      match Binary64.read? (dropUnderscores s.toList) with
      | some x => .ok x
      | none => .error .floatParsing
    else .error .floatParsing

/-- A double out of an integer, which has to be in its range. -/
def floatInt (n : Int) : Except Complaint Binary64 :=
  match Binary64.ofInt n with
  | .infinite _ => .error .floatType
  | x => .ok x

/-- A double. -/
def float : Json → Except Complaint Binary64
  | .float x => .ok x
  | .int n => floatInt n
  | .str s => floatText s
  | .bool b => floatInt (if b then 1 else 0)
  | _ => .error .floatType

/-- A text; nothing else is taken for one. -/
def string : Json → Except Complaint String
  | .str s => .ok s
  | _ => .error .stringType

end Voicemail.Lenient
