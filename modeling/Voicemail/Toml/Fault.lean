import Voicemail.Text.Numeral
import Voicemail.Text.Quoted
import Voicemail.Toml.Value

/-!
# Faults of configuration documents

Why a text is no document, and where: the place is a line and a column, both counted from one, or
the end of the document.
-/

namespace Voicemail.Toml

/-- Why a text is no document. -/
inductive Complaint where
  | invalidStatement
  | expectedNewline
  | declaredTwice (key : Key)
  | immutable (key : Key)
  | redefined (key : Key)
  | overwrite
  | unclosedHeader
  | unclosedListHeader
  | expected (text : String)
  | invalidCharacter (c : Char)
  | illegalCharacter (c : Char)
  | expectedEquals
  | keyStart
  | unclosedArray
  | unclosedTable
  | duplicateKey (key : String)
  | unescapedBackslash
  | invalidHex
  | notScalar
  | unterminated
  | invalidDate
  | invalidValue
  /-- An integer has more digits than a numeral may have. -/
  | tooManyDigits (count : Nat)
  /-- There is no room for a value in as many others. -/
  | tooDeep
  deriving DecidableEq, Repr

/-- A key as a message shows it. -/
def showKey : Key → String
  | [k] => "(" ++ Text.quoted k ++ ",)"
  | ks => "(" ++ ", ".intercalate (ks.map Text.quoted) ++ ")"

/-- The wording of a complaint. -/
def Complaint.message : Complaint → String
  | .invalidStatement => "Invalid statement"
  | .expectedNewline => "Expected newline or end of document after a statement"
  | .declaredTwice key => s!"Cannot declare {showKey key} twice"
  | .immutable key => s!"Cannot mutate immutable namespace {showKey key}"
  | .redefined key => s!"Cannot redefine namespace {showKey key}"
  | .overwrite => "Cannot overwrite a value"
  | .unclosedHeader => "Expected ']' at the end of a table declaration"
  | .unclosedListHeader => "Expected ']]' at the end of an array declaration"
  | .expected text => "Expected " ++ Text.quoted text
  | .invalidCharacter c => "Found invalid character " ++ Text.quoted c.toString
  | .illegalCharacter c => "Illegal character " ++ Text.quoted c.toString
  | .expectedEquals => "Expected '=' after a key in a key/value pair"
  | .keyStart => "Invalid initial character for a key part"
  | .unclosedArray => "Unclosed array"
  | .unclosedTable => "Unclosed inline table"
  | .duplicateKey key => "Duplicate inline table key " ++ Text.quoted key
  | .unescapedBackslash => "Unescaped '\\' in a string"
  | .invalidHex => "Invalid hex value"
  | .notScalar => "Escaped character is not a Unicode scalar value"
  | .unterminated => "Unterminated string"
  | .invalidDate => "Invalid date or datetime"
  | .invalidValue => "Invalid value"
  | .tooManyDigits count => Text.tooManyDigits count
  | .tooDeep => "Nested too deep"

/-- A complaint before the rest of a text. -/
structure Fault where
  complaint : Complaint
  /-- What is left of the text at the place of the complaint. -/
  rest : List Char

/-- Complains at a place. -/
def fail {α : Type} (c : Complaint) (rest : List Char) : Except Fault α := .error ⟨c, rest⟩

/-- A place in a text, by how much of the text is left there. -/
def place (text rest : List Char) : String :=
  if rest.isEmpty then "end of document"
  else
    let before := text.take (text.length - rest.length)
    let line := before.count '\n' + 1
    let column := (before.reverse.takeWhile (· ≠ '\n')).length + 1
    s!"line {line}, column {column}"

/-- The wording of a fault in a text. -/
def Fault.message (text : List Char) (f : Fault) : String :=
  s!"{f.complaint.message} (at {place text f.rest})"

end Voicemail.Toml
