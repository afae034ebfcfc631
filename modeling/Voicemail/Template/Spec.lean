import Voicemail.Json.Display
import Voicemail.Number.Fixed
import Voicemail.Template.Error
import Voicemail.Text.Numeral

/-!
# Format specifications

The part of a template field after the colon: fill and alignment, sign, alternate form, width,
grouping, precision and a type code. `formatValue` sets a parameter by it. Texts take a width and
a greatest length, integers a base, and an integer or a double any of the decimal forms.
-/

namespace Voicemail.Template

/-- A format specification. -/
structure Spec where
  fill : Char
  align : Char
  sign : Option Char
  coerceZero : Bool
  alternate : Bool
  width : Option Nat
  grouping : Option Char
  precision : Option Nat
  code : Option Char

/-- Whether a character says where a value stands in its width. -/
def isAlignment (c : Char) : Bool := c = '<' || c = '>' || c = '=' || c = '^'

/-- The greatest number a width or a precision may be. -/
def maxCount : Nat := Word.bound - 1

/-- The number at the start of a text, if a digit stands there, and what follows. -/
def readCount (s : List Char) : Except Error (Option Nat × List Char) :=
  let ds := s.takeWhile fun c => (Text.decimal? c).isSome
  if ds.isEmpty then .ok (none, s)
  else
    let n := Text.ofDigitValues (ds.filterMap Text.decimal?)
    if maxCount < n then .error .tooManyDigits else .ok (some n, s.drop ds.length)

/-- Fill and alignment, if given, and what follows. -/
def readAlignment : List Char → Option Char × Option Char × List Char
  | f :: a :: rest =>
    if isAlignment a then (some f, some a, rest)
    else if isAlignment f then (none, some f, a :: rest)
    else (none, none, f :: a :: rest)
  | [a] => if isAlignment a then (none, some a, []) else (none, none, [a])
  | [] => (none, none, [])

/-- A character out of a class at the start of a text, and what follows. -/
def readOne (p : Char → Bool) : List Char → Option Char × List Char
  | c :: rest => if p c then (some c, rest) else (none, c :: rest)
  | [] => (none, [])

/-- The grouping mark, if given, and what follows. -/
def readGrouping (s : List Char) : Except Error (Option Char × List Char) :=
  match s with
  | ',' :: '_' :: _ | '_' :: ',' :: _ => .error .commaAndUnderscore
  | c :: rest => if c = ',' || c = '_' then .ok (some c, rest) else .ok (none, s)
  | [] => .ok (none, [])

/-- The precision, if given, and what follows. -/
def readPrecision : List Char → Except Error (Option Nat × List Char)
  | '.' :: rest => do
    match ← readCount rest with
    | (none, _) => throw .missingPrecision
    | r => return r
  | s => .ok (none, s)

/-- Whether digits may be grouped by a mark under a type code. -/
def allowsGrouping (mark : Char) : Option Char → Bool
  | none => true
  | some c => "defgEG%F".toList.contains c || (mark = '_' && "boxX".toList.contains c)

/-- Reads a specification for a value of a type whose default alignment and code are given. -/
def Spec.read (type : String) (align : Char) (code : Option Char) (s : List Char) :
    Except Error Spec := do
  let (fill, alignment, rest) := readAlignment s
  let (sign, rest) := readOne (fun c => c = ' ' || c = '+' || c = '-') rest
  let (coerce, rest) := readOne (· = 'z') rest
  let (alternate, rest) := readOne (· = '#') rest
  let (zeros, rest) := if fill.isNone then readOne (· = '0') rest else (none, rest)
  let (width, rest) ← readCount rest
  let (grouping, rest) ← readGrouping rest
  let (precision, rest) ← readPrecision rest
  let given ← match rest with
    | [] => pure none
    | [c] => pure (some c)
    | _ => throw (.invalidSpecification (String.ofList s) type)
  let code := given <|> code
  match grouping with
  | some mark =>
    unless allowsGrouping mark code do throw (.groupingWith mark (code.getD 's'))
  | none => pure ()
  return {
    fill := fill.getD (if zeros.isSome then '0' else ' ')
    align := alignment.getD (if zeros.isSome && align = '>' then '=' else align)
    sign, coerceZero := coerce.isSome, alternate := alternate.isSome
    width, grouping, precision, code }

/-- A text set in the width of a specification. -/
def Spec.pad (sp : Spec) (s : List Char) : List Char :=
  let missing := sp.width.getD 0 - s.length
  let left := if sp.align = '>' then missing else if sp.align = '^' then missing / 2 else 0
  List.replicate left sp.fill ++ s ++ List.replicate (missing - left) sp.fill

/-- The greatest width that is set. -/
def maxWidth : Nat := Nat.pow 2 40

/-- What a width that can be set gives. -/
def Spec.fit (sp : Spec) (set : Spec → List Char) : Except Error (List Char) :=
  if maxWidth < sp.width.getD 0 then .error .tooWide else .ok (set sp)

/-- A text set by a specification. -/
def formatText (sp : Spec) (s : List Char) : Except Error (List Char) :=
  match sp.code with
  | some c => if c = 's' then checked else .error (.unknownCode c "str")
  | none => checked
where
  checked : Except Error (List Char) :=
    if sp.sign = some ' ' then .error .spaceInText
    else if sp.sign.isSome then .error .signInText
    else if sp.coerceZero then .error .negativeZeroInText
    else if sp.alternate then .error .alternateInText
    else if sp.align = '=' then .error .numericAlignmentInText
    else match sp.precision with
      | some n => sp.fit fun sp => sp.pad (s.take n)
      | none => sp.fit fun sp => sp.pad s

/-- Digits in groups of `size` counted from the end. -/
def groupDigits (size : Nat) (mark : Char) (ds : List Char) : List Char :=
  (ds.zipIdx).flatMap fun (c, i) =>
    if i ≠ 0 ∧ (ds.length - i) % size = 0 then [mark, c] else [c]

/-- The number of digits that fill `room` places when grouped. -/
def groupedLength (size room : Nat) : Nat → Nat → Nat
  | 0, n => n
  | fuel + 1, n =>
    if room ≤ n + (n - 1) / size then n else groupedLength size room fuel (n + 1)

/-- A number set by a specification: its sign, what stands before its digits, the digits of its
whole part, and what follows them. -/
def formatNumber (sp : Spec) (negative : Bool) (lead whole tail : List Char) : List Char :=
  let sign := if negative then ['-'] else match sp.sign with
    | some '+' => ['+']
    | some ' ' => [' ']
    | _ => []
  let taken := sign.length + lead.length + tail.length
  let size := if sp.code = some 'd' || !"boxX".toList.contains (sp.code.getD 'd') then 3 else 4
  let digits := match sp.grouping with
    | none => whole
    | some mark =>
      if whole.isEmpty then [] else
      let room := if sp.fill = '0' && sp.align = '=' then sp.width.getD 0 - taken else 0
      let n := groupedLength size room room whole.length
      groupDigits size mark (List.replicate (n - whole.length) '0' ++ whole)
  if sp.align = '=' then
    let missing := sp.width.getD 0 - (taken + digits.length)
    sign ++ lead ++ List.replicate missing sp.fill ++ digits ++ tail
  else sp.pad (sign ++ lead ++ digits ++ tail)

/-- The digits of a finite double by a type code, with its magnitude as a quotient. -/
def doubleDigits (sp : Spec) (code : Option Char) (mantissa : Nat) (exponent : Int) : List Char :=
  let (num, den) := Binary64.ratio mantissa exponent
  let places := sp.precision.getD 6
  match code with
  | some 'e' => Binary64.exponentForm sp.alternate 'e' places num den
  | some 'E' => Binary64.exponentForm sp.alternate 'E' places num den
  | some 'g' | some 'n' => Binary64.generalForm sp.alternate false 'e' places num den
  | some 'G' => Binary64.generalForm sp.alternate false 'E' places num den
  | some '%' =>
    match Binary64.ofRatio false (num * 100) den with
    | .finite _ m e =>
      let (num, den) := Binary64.ratio m e
      Binary64.fixedPoint sp.alternate places num den ++ ['%']
    | _ => "inf%".toList
  | some _ => Binary64.fixedPoint sp.alternate places num den
  | none =>
    match sp.precision with
    | some n => Binary64.generalForm sp.alternate true 'e' n num den
    | none =>
      let ds := Binary64.writeMagnitude .plain mantissa exponent
      if sp.alternate && !ds.contains '.' then
        ds.takeWhile Char.isDigit ++ '.' :: ds.dropWhile Char.isDigit
      else ds

/-- The greatest precision that the decimal forms of a double take. -/
def maxPrecision : Nat := 2147483647

/-- A double set by a specification. What stands for infinity and for what is not a number has no
digits, so nothing in it is grouped. -/
def formatDouble (sp : Spec) (type : String) (x : Binary64) : Except Error (List Char) :=
  match sp.code with
  | some c =>
    if "eEfFgGn%".toList.contains c then checked (some c) else .error (.unknownCode c type)
  | none => checked none
where
  checked (code : Option Char) : Except Error (List Char) :=
    if maxPrecision < sp.precision.getD 0 then .error .precisionTooBig
    else sp.fit fun sp => set sp code
  set (sp : Spec) (code : Option Char) : List Char :=
    let upper := code = some 'E' || code = some 'F' || code = some 'G'
    let percent := if code = some '%' then ['%'] else []
    match x with
    | .nan => formatNumber sp false [] [] ((if upper then "NAN" else "nan").toList ++ percent)
    | .infinite negative =>
      formatNumber sp negative [] [] ((if upper then "INF" else "inf").toList ++ percent)
    | .finite negative m e =>
      let digits := doubleDigits sp code m e
      let whole := digits.takeWhile Char.isDigit
      let isZero := !whole.isEmpty && digits.all fun c => !c.isDigit || c = '0'
      formatNumber sp (negative && !(sp.coerceZero && isZero)) [] whole
        (digits.drop whole.length)

/-- The double that stands for an integer in the decimal forms. -/
def doubleOf (n : Int) : Except Error Binary64 :=
  match Binary64.ofInt n with
  | .infinite _ => .error .beyondDouble
  | x => .ok x

/-- An integer set by a specification. -/
def formatInteger (sp : Spec) (type : String) (n : Int) : Except Error (List Char) :=
  let code := sp.code.getD 'd'
  if "eEfFgG%".toList.contains code then do formatDouble sp type (← doubleOf n)
  else if !"bcdoxXn".toList.contains code then .error (.unknownCode code type)
  else if sp.precision.isSome then .error .precisionInInteger
  else if sp.coerceZero then .error .negativeZeroInInteger
  else if code = 'c' then
    if sp.sign.isSome then .error .signWithCharacter
    else if sp.alternate then .error .alternateWithCharacter
    else if !Word.fits n then .error .characterWord
    else if n < 0 || 0x10ffff < n then .error .characterRange
    else sp.fit fun sp => formatNumber sp false [] [] [Char.ofNat n.toNat]
  else
    let base := if code = 'b' then 2 else if code = 'o' then 8
      else if code = 'x' || code = 'X' then 16 else 10
    let digits := Nat.toDigits base n.natAbs
    let digits := if code = 'X' then digits.map Char.toUpper else digits
    let lead := if sp.alternate && base ≠ 10 then ['0', code] else []
    sp.fit fun sp => formatNumber sp (n < 0) lead digits []

/-- A parameter set by the text of a specification. -/
def formatValue (v : Json) (spec : List Char) : Except Error (List Char) :=
  if spec.isEmpty then .ok v.display.toList
  else match v with
    | .str s => do formatText (← Spec.read "str" '<' (some 's') spec) s.toList
    | .int n => do formatInteger (← Spec.read "int" '>' (some 'd') spec) "int" n
    | .bool b => do
      let n := if b then 1 else 0
      formatInteger (← Spec.read "bool" '>' (some 'd') spec) "bool" n
    | .float x => do formatDouble (← Spec.read "float" '>' none spec) "float" x
    | v => .error (.unsupportedSpecification v.typeName)

end Voicemail.Template
