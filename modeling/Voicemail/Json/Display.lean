import Voicemail.Json.Value
import Voicemail.Number.Layout
import Voicemail.Text.Numeral
import Voicemail.Text.Quoted

/-!
# Showing values in messages

How a value reads in a message for people. `Json.display` shows a text as it is and everything
else as `Json.inspect` does, which puts a text between quotes and is used for what a list or an
object holds.
-/

namespace Voicemail.Json

mutual
/-- A value as it stands inside a message, with `plain` the characters of a text that need no
escape. -/
def inspectBy (plain : Char → Bool) : Json → List Char
  | .null => "None".toList
  | .bool true => "True".toList
  | .bool false => "False".toList
  | .int n => Text.writeInt n
  | .float x => x.write .plain
  | .str s => Text.quoteBy plain s.toList
  | .arr xs => '[' :: inspectItems plain xs ++ [']']
  | .obj ms => '\x7b' :: inspectMembers plain ms ++ ['\x7d']

/-- The items of a list with a comma and a blank between them. -/
def inspectItems (plain : Char → Bool) : List Json → List Char
  | [] => []
  | [x] => inspectBy plain x
  | x :: xs => inspectBy plain x ++ [',', ' '] ++ inspectItems plain xs

/-- The members of an object with a comma and a blank between them. -/
def inspectMembers (plain : Char → Bool) : List (String × Json) → List Char
  | [] => []
  | [(k, v)] => Text.quoteBy plain k.toList ++ [':', ' '] ++ inspectBy plain v
  | (k, v) :: ms =>
    Text.quoteBy plain k.toList ++ [':', ' '] ++ inspectBy plain v ++ [',', ' '] ++
      inspectMembers plain ms
end

/-- A value as it stands inside a message. -/
def inspect (v : Json) : String := String.ofList (v.inspectBy Text.isPrintable)

/-- A value as it stands inside a message in ASCII. -/
def inspectAscii (v : Json) : String := String.ofList (v.inspectBy Text.isPrintableAscii)

/-- A value as a message shows it: a text as it is. -/
def display : Json → String
  | .str s => s
  | v => v.inspect

end Voicemail.Json
