import Voicemail.Number.Shortest

/-!
# Layouts of decimal numbers

A `Layout` says how the shortest digits of a double are set: which decimal exponents are written
positionally, how an exponent is spelt, and what stands for the values that have no digits. Two
layouts are in use: `Layout.plain` in messages, in journal payloads and on the console, and
`Layout.report` in reports as JSON.
-/

namespace Voicemail

/-- How the digits of a double are written. -/
structure Layout where
  /-- The least scientific exponent that is written positionally. -/
  leastPositional : Int
  /-- The greatest scientific exponent that is written positionally. -/
  greatestPositional : Int
  /-- The fewest digits of a written exponent. -/
  exponentDigits : Nat
  /-- The text of positive infinity. -/
  infinity : String
  /-- The text of negative infinity. -/
  negativeInfinity : String
  /-- The text of what is not a number. -/
  notANumber : String

namespace Layout

/-- Positional from `0.0001` up to below `10 ^ 16`, exponents with two digits at least. -/
def plain : Layout :=
  { leastPositional := -4, greatestPositional := 15, exponentDigits := 2
    infinity := "inf", negativeInfinity := "-inf", notANumber := "nan" }

/-- The layout of `plain` with the names that JSON readers know for what JSON cannot write. -/
def json : Layout :=
  { plain with infinity := "Infinity", negativeInfinity := "-Infinity", notANumber := "NaN" }

/-- Positional from `0.00001` up to below `10 ^ 16`, exponents without padding. -/
def report : Layout :=
  { leastPositional := -5, greatestPositional := 15, exponentDigits := 1
    infinity := "null", negativeInfinity := "null", notANumber := "null" }

end Layout

namespace Binary64

/-- Digits with a point after the first `p` of them, padded with zeros where there are too few;
at least one digit on each side. -/
def positional (ds : List Char) (p : Int) : List Char :=
  match p with
  | .ofNat 0 => '0' :: '.' :: ds
  | .negSucc k => '0' :: '.' :: List.replicate (k + 1) '0' ++ ds
  | .ofNat (k + 1) =>
    let whole := ds.take (k + 1)
    let rest := ds.drop (k + 1)
    whole ++ List.replicate (k + 1 - whole.length) '0' ++ '.' ::
      (if rest.isEmpty then ['0'] else rest)

/-- Digits with a point after the first, and an exponent. -/
def scientific (exponentDigits : Nat) (ds : List Char) (e : Int) : List Char :=
  let mantissa := match ds with
    | [] => []
    | [d] => [d]
    | d :: rest => d :: '.' :: rest
  let magnitude := Nat.toDigits 10 e.natAbs
  mantissa ++ 'e' :: (if e < 0 then '-' else '+') ::
    (List.replicate (exponentDigits - magnitude.length) '0' ++ magnitude)

/-- The digits of a positive finite double in a layout. -/
def writeMagnitude (l : Layout) (mantissa : Nat) (exponent : Int) : List Char :=
  if mantissa = 0 then ['0', '.', '0']
  else
    let (d, k) := shortest mantissa exponent
    let ds := Nat.toDigits 10 d
    let e : Int := k + Int.ofNat ds.length - 1
    if l.leastPositional ≤ e ∧ e ≤ l.greatestPositional then positional ds (e + 1)
    else scientific l.exponentDigits ds e

/-- The text of a double in a layout. -/
def write (l : Layout) : Binary64 → List Char
  | .nan => l.notANumber.toList
  | .infinite negative => (if negative then l.negativeInfinity else l.infinity).toList
  | .finite negative m e => (if negative then ['-'] else []) ++ writeMagnitude l m e

/-- The text of a double in messages. -/
def text (x : Binary64) : String := String.ofList (x.write .plain)

end Binary64

end Voicemail
