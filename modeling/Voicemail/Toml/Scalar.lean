import Voicemail.Text.Character
import Voicemail.Toml.Fault

/-!
# Numbers and moments of configuration documents

Integers have a decimal, hexadecimal, octal or binary form, and single underscores may stand between
their digits. A moment is a date, a date with a time and perhaps an offset, or a time.
-/

namespace Voicemail.Toml

/-- The digits of a class that go on, with single underscores between them. -/
def moreDigits (p : Char → Bool) : List Char → List Char × List Char
  | '_' :: c :: s =>
    if p c then
      let (ds, rest) := moreDigits p s
      (c :: ds, rest)
    else ([], '_' :: c :: s)
  | c :: s =>
    if p c then
      let (ds, rest) := moreDigits p s
      (c :: ds, rest)
    else ([], c :: s)
  | [] => ([], [])

/-- Digits of a class, at least one. -/
def someDigits (p : Char → Bool) : List Char → List Char × List Char
  | c :: s =>
    if p c then
      let (ds, rest) := moreDigits p s
      (c :: ds, rest)
    else ([], c :: s)
  | [] => ([], [])

/-- Whether a character is a digit below a base of at most sixteen. -/
def isDigitBelow (base : Nat) (c : Char) : Bool :=
  match Text.hexadecimal? c with
  | some d => d < base
  | none => false

/-- The number of digits in a base. -/
def ofDigits (base : Nat) (ds : List Char) : Nat :=
  ds.foldl (fun n c => base * n + (Text.hexadecimal? c).getD 0) 0

/-- The base that a letter after a zero announces. -/
def base? : Char → Option Nat
  | 'x' => some 16
  | 'o' => some 8
  | 'b' => some 2
  | _ => none

/-- An integer with a base before its digits. -/
def basedInteger? : List Char → Option (Value × List Char)
  | '0' :: letter :: s => do
    let base ← base? letter
    match someDigits (isDigitBelow base) s with
    | ([], _) => none
    | (ds, rest) => some (.int (ofDigits base ds), rest)
  | _ => none

/-- The digits of a fraction after a point, if there are any. -/
def fraction? : List Char → Option (List Char × List Char)
  | '.' :: s =>
    match someDigits Char.isDigit s with
    | ([], _) => none
    | found => some found
  | _ => none

/-- A sign, if there is one: whether it is a minus, and the rest. -/
def sign : List Char → Bool × List Char
  | '-' :: s => (true, s)
  | '+' :: s => (false, s)
  | s => (false, s)

/-- An exponent, if there is one. -/
def exponent? : List Char → Option (Int × List Char)
  | mark :: s =>
    if mark = 'e' || mark = 'E' then
      let (negative, digits) := sign s
      match someDigits Char.isDigit digits with
      | ([], _) => none
      | (ds, rest) =>
        let n := Int.ofNat (Nat.ofDigitChars 10 ds 0)
        some (if negative then -n else n, rest)
    else none
  | [] => none

/-- The digits of a decimal integer: a zero, or digits that do not start with one. -/
def wholeDigits : List Char → List Char × List Char
  | '0' :: s => (['0'], s)
  | s => someDigits Char.isDigit s

/-- A decimal number: an integer, or a double if it has a fraction or an exponent. An integer of
too many digits stands as the number of its digits. -/
def decimal? (s : List Char) : Option (Except Nat Value × List Char) :=
  let (negative, digits) := sign s
  match wholeDigits digits with
  | ([], _) => none
  | (whole, rest) =>
    match fraction? rest with
    | none =>
      match exponent? rest with
      | none =>
        let n := Int.ofNat (Nat.ofDigitChars 10 whole 0)
        some (if Text.maxNumeralDigits < whole.length then .error whole.length
          else .ok (.int (if negative then -n else n)), rest)
      | some (e, rest) =>
        some (.ok (.float (.ofDecimal negative (Nat.ofDigitChars 10 whole 0) e)), rest)
    | some (fraction, rest) =>
      let (e, rest) := (exponent? rest).getD (0, rest)
      let digits := Nat.ofDigitChars 10 (whole ++ fraction) 0
      some (.ok (.float (.ofDecimal negative digits (e - Int.ofNat fraction.length))), rest)

/-- A double that is no number of digits. -/
def special? (s : List Char) : Option (Value × List Char) :=
  let (negative, word) := sign s
  match word with
  | 'i' :: 'n' :: 'f' :: rest => some (.float (.infinite negative), rest)
  | 'n' :: 'a' :: 'n' :: rest => some (.float .nan, rest)
  | _ => none

/-- Digits in a fixed number, as a number in a range. -/
def fixedDigits? (count low high : Nat) (s : List Char) : Option (Nat × List Char) :=
  let ds := s.take count
  let n := Nat.ofDigitChars 10 ds 0
  if ds.length = count && ds.all Char.isDigit && low ≤ n && n ≤ high then some (n, s.drop count)
  else none

/-- The rest after a character. -/
def expect? (c : Char) : List Char → Option (List Char)
  | d :: s => if d = c then some s else none
  | [] => none

/-- The rest after a time. -/
def afterTime? (s : List Char) : Option (List Char) := do
  let (_, s) ← fixedDigits? 2 0 23 s
  let (_, s) ← fixedDigits? 2 0 59 (← expect? ':' s)
  let (_, s) ← fixedDigits? 2 0 59 (← expect? ':' s)
  match s with
  | '.' :: d :: rest => return if d.isDigit then rest.dropWhile Char.isDigit else s
  | s => return s

/-- The rest after an offset, if one is there. -/
def afterOffset (s : List Char) : List Char :=
  match s with
  | c :: rest =>
    if c = 'Z' || c = 'z' then rest
    else if c = '+' || c = '-' then
      (do
        let (_, t) ← fixedDigits? 2 0 23 rest
        let (_, t) ← fixedDigits? 2 0 59 (← expect? ':' t)
        return t : Option (List Char)).getD s
    else s
  | [] => []

/-- The rest after the time that may follow a date. -/
def afterDate (s : List Char) : List Char :=
  match s with
  | c :: rest =>
    if c = 'T' || c = 't' || c = ' ' then ((afterTime? rest).map afterOffset).getD s else s
  | [] => []

/-- How many days a month has. -/
def daysInMonth (year month : Nat) : Nat :=
  if month = 2 then
    if year % 4 = 0 && (year % 100 ≠ 0 || year % 400 = 0) then 29 else 28
  else if month = 4 || month = 6 || month = 9 || month = 11 then 30
  else 31

/-- A date in its form: year, month, day and the rest. -/
def date? (s : List Char) : Option ((Nat × Nat × Nat) × List Char) := do
  let (year, s) ← fixedDigits? 4 0 9999 s
  let (month, s) ← fixedDigits? 2 1 12 (← expect? '-' s)
  let (day, s) ← fixedDigits? 2 1 31 (← expect? '-' s)
  return ((year, month, day), s)

/-- A moment that ends at a rest of a text. -/
def momentUpTo (s rest : List Char) : Value × List Char :=
  (.moment (String.ofList (s.take (s.length - rest.length))), rest)

/-- A number or a moment. What has the form of a date has to be one. -/
def scalar (s : List Char) : Except Fault (Value × List Char) :=
  match date? s with
  | some ((year, month, day), rest) =>
    if 1 ≤ year && day ≤ daysInMonth year month then .ok (momentUpTo s (afterDate rest))
    else fail .invalidDate s
  | none =>
    match (afterTime? s).map (momentUpTo s) <|> basedInteger? s with
    | some found => .ok found
    | none =>
      match decimal? s with
      | some (.ok v, rest) => .ok (v, rest)
      | some (.error count, _) => fail (.tooManyDigits count) s
      | none =>
        match special? s with
        | some found => .ok found
        | none => fail .invalidValue s

end Voicemail.Toml
