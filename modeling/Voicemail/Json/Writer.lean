import Voicemail.Json.Value
import Voicemail.Number.Layout
import Voicemail.Text.Numeral
import Voicemail.Text.Quoted

/-!
# Writing JSON

`Json.write` puts a value on one line, in ASCII: the journal stores payloads and the log writes
records with a blank after each separator, and a report for people has none. `Json.pretty` is the
form of a report for programs: one member a line, indented by two, and every character that needs
no escape as itself.
-/

namespace Voicemail.Json

/-- The escape of a UTF-16 code unit. -/
def unitEscape (n : Nat) : List Char := '\\' :: 'u' :: Text.hexDigits 4 n

/-- The two-character escape of the characters that have one. -/
def shortEscape? (c : Char) : Option (List Char) :=
  if c = '"' then some ['\\', '"']
  else if c = '\\' then some ['\\', '\\']
  else if c = '\n' then some ['\\', 'n']
  else if c = '\r' then some ['\\', 'r']
  else if c = '\t' then some ['\\', 't']
  else if c = '\x0c' then some ['\\', 'f']
  else if c = '\x08' then some ['\\', 'b']
  else none

/-- A character of a string in ASCII: what does not print is written in UTF-16 code units. -/
def escapeAscii (c : Char) : List Char :=
  match shortEscape? c with
  | some e => e
  | none =>
    if ' ' ≤ c ∧ c ≤ '~' then [c]
    else if c.toNat < 0x10000 then unitEscape c.toNat
    else
      let n := c.toNat - 0x10000
      unitEscape (0xd800 + n / 0x400) ++ unitEscape (0xdc00 + n % 0x400)

/-- A character of a string in which only controls are escaped. -/
def escapeControl (c : Char) : List Char :=
  match shortEscape? c with
  | some e => e
  | none => if c < ' ' then unitEscape c.toNat else [c]

/-- A string between double quotes. -/
def writeString (escape : Char → List Char) (s : String) : List Char :=
  '"' :: s.toList.flatMap escape ++ ['"']

/-- The separators of a form on one line. -/
structure Style where
  /-- Stands between two items or members. -/
  item : List Char
  /-- Stands between a key and its value. -/
  key : List Char

/-- A blank after each separator. -/
def Style.spaced : Style := ⟨[',', ' '], [':', ' ']⟩

/-- No blanks. -/
def Style.compact : Style := ⟨[','], [':']⟩

mutual
/-- A value on one line, in ASCII. -/
def write (st : Style) : Json → List Char
  | .null => "null".toList
  | .bool true => "true".toList
  | .bool false => "false".toList
  | .int n => Text.writeInt n
  | .float x => x.write .json
  | .str s => writeString escapeAscii s
  | .arr xs => '[' :: writeItems st xs ++ [']']
  | .obj ms => '\x7b' :: writeMembers st ms ++ ['\x7d']

/-- The items of an array with separators between them. -/
def writeItems (st : Style) : List Json → List Char
  | [] => []
  | [x] => write st x
  | x :: xs => write st x ++ st.item ++ writeItems st xs

/-- The members of an object with separators between them. -/
def writeMembers (st : Style) : List (String × Json) → List Char
  | [] => []
  | [(k, v)] => writeString escapeAscii k ++ st.key ++ write st v
  | (k, v) :: ms =>
    writeString escapeAscii k ++ st.key ++ write st v ++ st.item ++ writeMembers st ms
end

/-- A line break and the blanks that indent the next line. -/
def newline (indent : Nat) : List Char := '\n' :: List.replicate indent ' '

mutual
/-- A value over several lines, each level indented by two more. -/
def pretty (indent : Nat) : Json → List Char
  | .null => "null".toList
  | .bool true => "true".toList
  | .bool false => "false".toList
  | .int n => Text.writeInt n
  | .float (.finite s m e) => (Binary64.finite s m e).write .report
  | .float _ => "null".toList
  | .str s => writeString escapeControl s
  | .arr [] => ['[', ']']
  | .arr (x :: xs) =>
    '[' :: newline (indent + 2) ++ pretty (indent + 2) x ++ prettyItems (indent + 2) xs ++
      newline indent ++ [']']
  | .obj [] => ['\x7b', '\x7d']
  | .obj ((k, v) :: ms) =>
    '\x7b' :: newline (indent + 2) ++ writeString escapeControl k ++ [':', ' '] ++
      pretty (indent + 2) v ++ prettyMembers (indent + 2) ms ++ newline indent ++ ['\x7d']

/-- The items after the first, each on a line of its own. -/
def prettyItems (indent : Nat) : List Json → List Char
  | [] => []
  | x :: xs => ',' :: newline indent ++ pretty indent x ++ prettyItems indent xs

/-- The members after the first, each on a line of its own. -/
def prettyMembers (indent : Nat) : List (String × Json) → List Char
  | [] => []
  | (k, v) :: ms =>
    ',' :: newline indent ++ writeString escapeControl k ++ [':', ' '] ++ pretty indent v ++
      prettyMembers indent ms
end

/-- The text of a value on one line, with blanks after the separators. -/
def text (v : Json) : String := String.ofList (v.write .spaced)

/-- The text of a value on one line, without blanks. -/
def compactText (v : Json) : String := String.ofList (v.write .compact)

/-- The text of a value over several lines. -/
def prettyText (v : Json) : String := String.ofList (v.pretty 0)

end Voicemail.Json
