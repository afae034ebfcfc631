import Voicemail.Json.Display
import Voicemail.Number.Fixed

/-!
# Log messages with arguments

A plain record may be given as a message with conversions and the arguments for them: `%s` stands
for the text of the next argument, `%d` for a decimal integer, `%(name)s` for a named one. `pieces`
takes a message apart and `fill?` puts the arguments in; a message without arguments is left as it
is, and otherwise a doubled percent sign stands for one. There is no text if the message is
malformed or does not fit its arguments.
-/

namespace Voicemail.LogMessage

/-- The greatest size of a width or a precision. -/
def maxCount : Nat := Nat.pow 2 31 - 1

/-- A width or a precision: a number, or the next argument. -/
inductive Count where
  | given (n : Nat)
  | argument
  deriving DecidableEq, Repr

/-- A conversion: what stands between a percent sign and the letter that ends it. -/
structure Conversion where
  /-- The name of the argument, if it is named. -/
  key : Option (List Char)
  flags : List Char
  width : Option Count
  precision : Option Count
  code : Char
  deriving DecidableEq, Repr

/-- A piece of a message. -/
inductive Piece where
  | char (c : Char)
  | conversion (c : Conversion)
  | malformed
  deriving DecidableEq, Repr

/-- A name up to the parenthesis that closes it, with `depth` open inside it, and what follows. -/
def readKey : Nat → List Char → Option (List Char × List Char)
  | _, [] => none
  | depth, c :: rest =>
    let further (depth : Nat) := (readKey depth rest).map fun (key, rest) => (c :: key, rest)
    if c = '(' then further (depth + 1)
    else if c = ')' then
      match depth with
      | 0 => some ([], rest)
      | depth + 1 => further depth
    else further depth

/-- The count at the start of a text, if one stands there, and what follows. -/
def readCount (s : List Char) : Option Count × List Char :=
  match s with
  | '*' :: rest => (some .argument, rest)
  | _ =>
    let digits := s.takeWhile Char.isDigit
    if digits.isEmpty then (none, s)
    else (some (.given (Text.ofDigitValues (digits.filterMap Text.decimal?))), s.drop digits.length)

/-- A conversion after its percent sign, and what follows. A precision without a number is zero,
and the letters that tell the size of an integer mean nothing. -/
def readConversion (s : List Char) : Option (Conversion × List Char) := do
  let (key, s) ← match s with
    | '(' :: rest => (readKey 0 rest).map fun (key, rest) => (some key, rest)
    | _ => pure (none, s)
  let flags := s.takeWhile "-+ #0".toList.contains
  let (width, s) := readCount (s.drop flags.length)
  let (precision, s) := match s with
    | '.' :: rest => let (n, rest) := readCount rest; (some (n.getD (.given 0)), rest)
    | _ => (none, s)
  let s := match s with
    | c :: rest => if "hlL".toList.contains c then rest else s
    | [] => []
  match s with
  | code :: rest => return ({ key, flags, width, precision, code }, rest)
  | [] => none

/-- The pieces of a message, with at most as many as the fuel. -/
def piecesAux : Nat → List Char → List Piece
  | 0, _ => []
  | _ + 1, [] => []
  | fuel + 1, '%' :: '%' :: rest => .char '%' :: piecesAux fuel rest
  | fuel + 1, '%' :: rest =>
    match readConversion rest with
    | some (c, rest) => .conversion c :: piecesAux fuel rest
    | none => [.malformed]
  | fuel + 1, c :: rest => .char c :: piecesAux fuel rest

/-- The pieces of a message. -/
def pieces (s : List Char) : List Piece := piecesAux s.length s

/-- What is left of the arguments of a message. -/
structure Arguments where
  /-- The named arguments, if they are given by name. -/
  named : Option (List (String × Json))
  /-- The arguments that come next. -/
  next : List Json

/-- The arguments that a list gives: one object that is not empty gives them by name. -/
def Arguments.ofList : List Json → Arguments
  | [.obj (m :: ms)] => { named := some (m :: ms), next := [.obj (m :: ms)] }
  | args => { named := none, next := args }

/-- The next argument. -/
def Arguments.take (a : Arguments) : Option (Json × Arguments) :=
  match a.next with
  | v :: rest => some (v, { a with next := rest })
  | [] => none

/-- The named argument of a conversion comes next. -/
def Arguments.select (a : Arguments) : Option (List Char) → Option Arguments
  | none => some a
  | some key => do
    let v ← (← a.named).lookup (String.ofList key)
    return { a with next := [v] }

/-- Whether no argument is left over. -/
def Arguments.isSpent (a : Arguments) : Bool := a.named.isSome || a.next.isEmpty

/-- The number of a count, unless it is too great. -/
def Arguments.count (a : Arguments) (c : Count) : Option (Int × Arguments) := do
  let (n, a) ← match c with
    | .given n => pure (Int.ofNat n, a)
    | .argument => do
      let (v, a) ← a.take
      match v with
      | .int n => pure (n, a)
      | .bool b => pure (if b then 1 else 0, a)
      | _ => none
  if maxCount < n.natAbs then none else return (n, a)

/-- A converted argument. -/
structure Converted where
  negative : Bool := false
  /-- Stands between the sign and the body. -/
  lead : List Char := []
  body : List Char
  isNumber : Bool := true

/-- A converted argument set in a width. -/
def Converted.set (flags : List Char) (width : Nat) (c : Converted) : List Char :=
  let sign :=
    if !c.isNumber then []
    else if c.negative then ['-']
    else if flags.contains '+' then ['+']
    else if flags.contains ' ' then [' ']
    else []
  let missing := width - (sign.length + c.lead.length + c.body.length)
  if flags.contains '-' then sign ++ c.lead ++ c.body ++ List.replicate missing ' '
  else if c.isNumber && flags.contains '0' then
    sign ++ c.lead ++ List.replicate missing '0' ++ c.body
  else List.replicate missing ' ' ++ sign ++ c.lead ++ c.body

/-- The integer that a decimal conversion shows: of a double, what stands before its point. -/
def wholeOf : Json → Option Int
  | .int n => some n
  | .bool b => some (if b then 1 else 0)
  | .float (.finite negative m e) =>
    let (num, den) := Binary64.ratio m e
    some (if negative then -Int.ofNat (num / den) else Int.ofNat (num / den))
  | _ => none

/-- The double that a real conversion shows. -/
def realOf : Json → Option Binary64
  | .float x => some x
  | v => do
    match Binary64.ofInt (← wholeOf v) with
    | .infinite _ => none
    | x => return x

/-- An integer in a base, with at least as many digits as the precision. -/
def convertInteger (code : Char) (flags : List Char) (precision : Nat) (n : Int) : Converted :=
  let base := if code = 'o' then 8 else if code = 'x' || code = 'X' then 16 else 10
  let digits := Nat.toDigits base n.natAbs
  let digits := if code = 'X' then digits.map Char.toUpper else digits
  { negative := n < 0
    lead := if base ≠ 10 && flags.contains '#' then ['0', code] else []
    body := List.replicate (precision - digits.length) '0' ++ digits }

/-- A double in one of the decimal forms. -/
def convertReal (code : Char) (flags : List Char) (precision : Nat) (x : Binary64) : Converted :=
  let upper := code.isUpper
  let keep := flags.contains '#'
  match x with
  | .nan => { body := (if upper then "NAN" else "nan").toList }
  | .infinite negative => { negative, body := (if upper then "INF" else "inf").toList }
  | .finite negative m e =>
    let (num, den) := Binary64.ratio m e
    let form := code.toLower
    let mark := if upper then 'E' else 'e'
    { negative
      body :=
        if form = 'e' then Binary64.exponentForm keep mark precision num den
        else if form = 'f' then Binary64.fixedPoint keep precision num den
        else Binary64.generalForm keep false mark precision num den }

/-- An argument under a type code. -/
def convert (code : Char) (flags : List Char) (precision : Option Nat) (v : Json) :
    Option Converted :=
  let text (s : String) : Converted :=
    { body := match precision with
        | some n => s.toList.take n
        | none => s.toList
      isNumber := false }
  if code = 's' then some (text v.display)
  else if code = 'r' then some (text v.inspect)
  else if code = 'a' then some (text v.inspectAscii)
  else if code = 'c' then
    match v with
    | .str s => if s.length = 1 then some { body := s.toList, isNumber := false } else none
    | .float _ => none
    | v => do
      let n ← wholeOf v
      if n < 0 || 0x10ffff < n then none
      else some { body := [Char.ofNat n.toNat], isNumber := false }
  else if "diu".toList.contains code then
    (wholeOf v).map (convertInteger code flags (precision.getD 0))
  else if "oxX".toList.contains code then
    match v with
    | .float _ => none
    | v => (wholeOf v).map (convertInteger code flags (precision.getD 0))
  else if "eEfFgG".toList.contains code then
    (realOf v).map (convertReal code flags (precision.getD 6))
  else none

/-- A conversion with its arguments put in. A width below zero means blanks at the end, and a
precision below zero is zero. -/
def Conversion.fill (c : Conversion) (a : Arguments) : Option (List Char × Arguments) := do
  let a ← a.select c.key
  let (width, a) ← match c.width with
    | some n => a.count n
    | none => pure (0, a)
  let flags := if width < 0 then '-' :: c.flags else c.flags
  let (precision, a) ← match c.precision with
    | some n => (a.count n).map fun (n, a) => (some n.toNat, a)
    | none => pure (none, a)
  let (v, a) ← a.take
  return ((← convert c.code flags precision v).set flags width.natAbs, a)

/-- The text of pieces with the arguments put in. -/
def fillPieces : List Piece → Arguments → Option (List Char)
  | [], a => if a.isSpent then some [] else none
  | .malformed :: _, _ => none
  | .char c :: rest, a => (fillPieces rest a).map (c :: ·)
  | .conversion c :: rest, a => do
    let (text, a) ← c.fill a
    return text ++ (← fillPieces rest a)

/-- A message with its arguments put in. -/
def fill? (message : String) (args : List Json) : Option String :=
  if args.isEmpty then some message
  else (fillPieces (pieces message.toList) (.ofList args)).map String.ofList

end Voicemail.LogMessage
