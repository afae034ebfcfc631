import Voicemail.Json.Value
import Voicemail.Text.Numeral

/-!
# Reading JSON

`Json.read?` reads one value with blanks around it. A repeated key keeps its first place and its
last value. Beyond the standard it takes the three names of what is no finite number. A string is
read in two steps: `readUnits` undoes the escapes into code units, and `joinSurrogates` puts pairs
of surrogates together, because the two halves of a character are escaped apart. Integers from
outside are limited in length; those in a text that was stored are not (`Json.restore?`).

Values nest, so the readers count down a fuel that starts at the length of the text; each of them
takes a character before it hands the rest on.
-/

namespace Voicemail.Json

/-- White space between the parts of a document. -/
def isSpace (c : Char) : Bool := c = ' ' || c = '\t' || c = '\n' || c = '\r'

/-- The rest of a text after leading white space. -/
def skipSpace (s : List Char) : List Char := s.dropWhile isSpace

/-- The number of four hexadecimal digits. -/
def hex4? (a b c d : Char) : Option Nat := do
  let a ← Text.hexadecimal? a
  let b ← Text.hexadecimal? b
  let c ← Text.hexadecimal? c
  let d ← Text.hexadecimal? d
  return ((a * 16 + b) * 16 + c) * 16 + d

/-- The code point of a one-letter escape. -/
def shortUnescape? (c : Char) : Option Nat :=
  if c = '"' || c = '\\' || c = '/' then some c.toNat
  else if c = 'n' then some 10
  else if c = 'r' then some 13
  else if c = 't' then some 9
  else if c = 'f' then some 12
  else if c = 'b' then some 8
  else none

/-- The code units of a string up to its closing quote, and what follows the quote. -/
def readUnits : List Char → Option (List Nat × List Char)
  | [] => none
  | '"' :: rest => some ([], rest)
  | '\\' :: 'u' :: a :: b :: c :: d :: rest => do
    let n ← hex4? a b c d
    let (ns, rest) ← readUnits rest
    return (n :: ns, rest)
  | '\\' :: c :: rest => do
    let n ← shortUnescape? c
    let (ns, rest) ← readUnits rest
    return (n :: ns, rest)
  | c :: rest =>
    if c < ' ' || c = '\\' then none
    else do
      let (ns, rest) ← readUnits rest
      return (c.toNat :: ns, rest)

/-- Whether a code unit is the first half of a character. -/
def isHighSurrogate (n : Nat) : Bool := 0xd800 ≤ n && n < 0xdc00

/-- Whether a code unit is the second half of a character. -/
def isLowSurrogate (n : Nat) : Bool := 0xdc00 ≤ n && n < 0xe000

/-- The characters of code units; a half without its other half is the replacement character. -/
def joinSurrogates : List Nat → List Char
  | [] => []
  | [n] => [if isHighSurrogate n || isLowSurrogate n then '\ufffd' else Char.ofNat n]
  | a :: b :: rest =>
    if isHighSurrogate a && isLowSurrogate b then
      Char.ofNat (0x10000 + (a - 0xd800) * 0x400 + (b - 0xdc00)) :: joinSurrogates rest
    else
      (if isHighSurrogate a || isLowSurrogate a then '\ufffd' else Char.ofNat a) ::
        joinSurrogates (b :: rest)

/-- The rest of a string after its opening quote, and what follows it. -/
def readString (s : List Char) : Option (String × List Char) := do
  let (units, rest) ← readUnits s
  return (String.ofList (joinSurrogates units), rest)

/-- The digits at the start of a text, and what follows them. -/
def spanDigits (s : List Char) : List Char × List Char := s.span Char.isDigit

/-- The fraction digits after a point, if a point and a digit follow. -/
def readFraction : List Char → Option (List Char) × List Char
  | '.' :: rest =>
    match spanDigits rest with
    | ([], _) => (none, '.' :: rest)
    | (ds, rest) => (some ds, rest)
  | rest => (none, rest)

/-- The exponent, if one follows. -/
def readExponent (s : List Char) : Option Int × List Char :=
  match s with
  | c :: rest =>
    if c = 'e' || c = 'E' then
      let (negative, digits) := match rest with
        | '-' :: r => (true, r)
        | '+' :: r => (false, r)
        | r => (false, r)
      match spanDigits digits with
      | ([], _) => (none, s)
      | (ds, rest) =>
        let n := Int.ofNat (Nat.ofDigitChars 10 ds 0)
        (some (if negative then -n else n), rest)
    else (none, s)
  | [] => (none, s)

/-- A number: an integer unless a fraction or an exponent follows its digits. An integer may be
limited in length. -/
def readNumber (limited : Bool) (negative : Bool) (s : List Char) : Option (Json × List Char) :=
  let (whole, rest) := match s with
    | '0' :: r => (['0'], r)
    | _ => spanDigits s
  if whole.isEmpty then none
  else
    let (fraction?, rest) := readFraction rest
    let (exponent?, rest) := readExponent rest
    match fraction?, exponent? with
    | none, none =>
      if limited && Text.maxNumeralDigits < whole.length then none
      else
        let n := Int.ofNat (Nat.ofDigitChars 10 whole 0)
        some (.int (if negative then -n else n), rest)
    | _, _ =>
      let fraction := fraction?.getD []
      let digits := Nat.ofDigitChars 10 (whole ++ fraction) 0
      let exponent := exponent?.getD 0 - Int.ofNat fraction.length
      some (.float (Binary64.ofDecimal negative digits exponent), rest)

/-- What follows `word` in a text that starts with it. -/
def afterWord? (word : String) (s : List Char) : Option (List Char) :=
  if word.toList.isPrefixOf s then some (s.drop word.length) else none

/-- A value that is a word. -/
def readWord (s : List Char) : Option (Json × List Char) :=
  (afterWord? "null" s).map (Json.null, ·) <|>
  (afterWord? "true" s).map (Json.bool true, ·) <|>
  (afterWord? "false" s).map (Json.bool false, ·) <|>
  (afterWord? "NaN" s).map (Json.float .nan, ·) <|>
  (afterWord? "Infinity" s).map (Json.float (.infinite false), ·) <|>
  (afterWord? "-Infinity" s).map (Json.float (.infinite true), ·)

mutual
/-- A value at the start of a text, and what follows it. -/
def readValue (limited : Bool) : Nat → List Char → Option (Json × List Char)
  | 0, _ => none
  | fuel + 1, s =>
    match s with
    | [] => none
    | '"' :: rest => (readString rest).map fun (t, rest) => (.str t, rest)
    | '[' :: rest =>
      match skipSpace rest with
      | ']' :: rest => some (.arr [], rest)
      | rest => (readItems limited fuel rest).map fun (xs, rest) => (.arr xs, rest)
    | '\x7b' :: rest =>
      match skipSpace rest with
      | '\x7d' :: rest => some (.obj [], rest)
      | rest => (readMembers limited fuel rest).map fun (ms, rest) => (.ofPairs ms, rest)
    | c :: rest =>
      if c.isDigit then readNumber limited false s
      else match c, rest with
        | '-', d :: _ => if d.isDigit then readNumber limited true rest else readWord s
        | _, _ => readWord s

/-- The items of an array from the first one on, and what follows the closing bracket. -/
def readItems (limited : Bool) : Nat → List Char → Option (List Json × List Char)
  | 0, _ => none
  | fuel + 1, s => do
    let (x, rest) ← readValue limited fuel s
    match skipSpace rest with
    | ']' :: rest => return ([x], rest)
    | ',' :: rest =>
      let (xs, rest) ← readItems limited fuel (skipSpace rest)
      return (x :: xs, rest)
    | _ => none

/-- The members of an object from the first one on, and what follows the closing brace. -/
def readMembers (limited : Bool) : Nat → List Char → Option (List (String × Json) × List Char)
  | 0, _ => none
  | fuel + 1, s =>
    match s with
    | '"' :: rest => do
      let (key, rest) ← readString rest
      match skipSpace rest with
      | ':' :: rest =>
        let (value, rest) ← readValue limited fuel (skipSpace rest)
        match skipSpace rest with
        | '\x7d' :: rest => return ([(key, value)], rest)
        | ',' :: rest =>
          let (ms, rest) ← readMembers limited fuel (skipSpace rest)
          return ((key, value) :: ms, rest)
        | _ => none
      | _ => none
    | _ => none
end

/-- The value that a text writes, with blanks around it. -/
def readChars? (limited : Bool) (s : List Char) : Option Json :=
  match readValue limited (2 * s.length + 2) (skipSpace s) with
  | some (v, rest) => if (skipSpace rest).isEmpty then some v else none
  | none => none

/-- The value that a text writes, with blanks around it. -/
def read? (s : String) : Option Json := readChars? true s.toList

/-- The value that was stored as a text. -/
def restore? (s : String) : Option Json := readChars? false s.toList

end Voicemail.Json
