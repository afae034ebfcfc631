import Voicemail.Text.Quoted

/-!
# Template errors

What can be wrong with a command template or with the parameters that are put into it, and how a
message says it.
-/

namespace Voicemail.Template

/-- The families of template errors. -/
inductive ErrorKind where
  /-- The template or a format specification is malformed. -/
  | value
  /-- A named parameter is missing. -/
  | key
  /-- A numbered parameter, or a place in a text, is out of range. -/
  | index
  /-- A parameter does not allow what the template asks of it. -/
  | type
  /-- A parameter has no such member. -/
  | member
  /-- A number has no character, or no double is as large. -/
  | overflow
  /-- A text would be longer than any text. -/
  | memory
  deriving DecidableEq, Repr

/-- A template error. -/
inductive Error where
  | loneOpening
  | loneClosing
  | unclosedField
  | openingInName
  | missingConversion
  | afterConversion
  | unclosedSpecification
  | nestedTooDeep
  | missingBracket
  | afterBracket
  | emptyMember
  | tooManyDigits
  | missingParameter (name : String)
  | numberedParameter (n : Nat)
  | unknownMember (type name : String)
  | unknownTrait (type name : String)
  | withheldMember (name : String)
  | notSubscriptable (type : String)
  | kindNotSubscriptable (type : String)
  | notGeneric (shown : String)
  | indexRange (type : String)
  | textIndexType
  | listIndexType (type : String)
  | missingNumber (n : Nat)
  | unknownConversion (c : Char)
  | unsupportedSpecification (type : String)
  | invalidSpecification (text type : String)
  | missingPrecision
  | commaAndUnderscore
  | groupingWith (separator type : Char)
  | spaceInText
  | signInText
  | negativeZeroInText
  | alternateInText
  | numericAlignmentInText
  | unknownCode (c : Char) (type : String)
  | precisionInInteger
  | negativeZeroInInteger
  | signWithCharacter
  | alternateWithCharacter
  | characterWord
  | characterRange
  | precisionTooBig
  | beyondDouble
  | tooWide
  deriving DecidableEq, Repr

/-- How a message names a letter of a template: as it is between the blank and `limit`, else by
its number. -/
def letterText (limit : Char) (c : Char) : String :=
  if ' ' < c && c < limit then c.toString
  else "\\x" ++ String.ofList (Nat.toDigits 16 c.toNat)

/-- How a message names a conversion, of which only the printable ASCII ones are shown as they
are. -/
def conversionText (c : Char) : String := letterText '\x7f' c

/-- How a message names a type code, of which all ASCII ones after the blank are shown as they
are. -/
def codeText (c : Char) : String := letterText '\x80' c

/-- The wording of an error. The message of a missing parameter is its quoted name. -/
def Error.message : Error → String
  | .loneOpening => "Single '\x7b' encountered in format string"
  | .loneClosing => "Single '\x7d' encountered in format string"
  | .unclosedField => "expected '\x7d' before end of string"
  | .openingInName => "unexpected '\x7b' in field name"
  | .missingConversion => "end of string while looking for conversion specifier"
  | .afterConversion => "expected ':' after conversion specifier"
  | .unclosedSpecification => "unmatched '\x7b' in format spec"
  | .nestedTooDeep => "Max string recursion exceeded"
  | .missingBracket => "Missing ']' in format string"
  | .afterBracket => "Only '.' or '[' may follow ']' in format field specifier"
  | .emptyMember => "Empty attribute in format string"
  | .tooManyDigits => "Too many decimal digits in format string"
  | .missingParameter name => Text.quoted name
  | .numberedParameter n =>
    s!"Replacement index {n} out of range for positional args tuple"
  | .unknownMember type name => s!"'{type}' object has no attribute '{name}'"
  | .unknownTrait type name => s!"type object '{type}' has no attribute '{name}'"
  | .withheldMember name => name
  | .kindNotSubscriptable type => s!"type '{type}' is not subscriptable"
  | .notGeneric shown => s!"{shown} is not a generic class"
  | .notSubscriptable type => s!"'{type}' object is not subscriptable"
  | .indexRange type => s!"{type} index out of range"
  | .textIndexType => "string indices must be integers, not 'str'"
  | .listIndexType type => s!"{type} indices must be integers or slices, not str"
  | .missingNumber n => toString n
  | .unknownConversion c => "Unknown conversion specifier " ++ conversionText c
  | .unsupportedSpecification type => s!"unsupported format string passed to {type}.__format__"
  | .invalidSpecification text type =>
    s!"Invalid format specifier '{text}' for object of type '{type}'"
  | .missingPrecision => "Format specifier missing precision"
  | .commaAndUnderscore => "Cannot specify both ',' and '_'."
  | .groupingWith separator type =>
    "Cannot specify '" ++ separator.toString ++ "' with '" ++ codeText type ++ "'."
  | .spaceInText => "Space not allowed in string format specifier"
  | .signInText => "Sign not allowed in string format specifier"
  | .negativeZeroInText => "Negative zero coercion (z) not allowed in string format specifier"
  | .alternateInText => "Alternate form (#) not allowed in string format specifier"
  | .numericAlignmentInText => "'=' alignment not allowed in string format specifier"
  | .unknownCode c type =>
    "Unknown format code '" ++ codeText c ++ "' for object of type '" ++ type ++ "'"
  | .precisionInInteger => "Precision not allowed in integer format specifier"
  | .negativeZeroInInteger =>
    "Negative zero coercion (z) not allowed in integer format specifier"
  | .signWithCharacter => "Sign not allowed with integer format specifier 'c'"
  | .alternateWithCharacter =>
    "Alternate form (#) not allowed with integer format specifier 'c'"
  | .characterWord => "Python int too large to convert to C long"
  | .characterRange => "%c arg not in range(0x110000)"
  | .precisionTooBig => "precision too big"
  | .beyondDouble => "int too large to convert to float"
  | .tooWide => ""

/-- The family of an error. -/
def Error.kind : Error → ErrorKind
  | .missingParameter _ | .missingNumber _ => .key
  | .numberedParameter _ | .indexRange _ => .index
  | .notSubscriptable _ | .kindNotSubscriptable _ | .notGeneric _ | .textIndexType
  | .listIndexType _ | .unsupportedSpecification _ => .type
  | .unknownMember _ _ | .unknownTrait _ _ | .withheldMember _ => .member
  | .characterWord | .characterRange | .beyondDouble => .overflow
  | .tooWide => .memory
  | _ => .value

end Voicemail.Template
