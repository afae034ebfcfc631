import Voicemail.Assoc
import Voicemail.Number.Binary64

/-!
# JSON values

The values of event payloads, reports, log fields and configuration documents. Integers are exact
and of any size, and apart from doubles; an object keeps its members in order.
-/

namespace Voicemail

/-- A JSON value. -/
inductive Json where
  | null
  | bool (value : Bool)
  | int (value : Int)
  | float (value : Binary64)
  | str (value : String)
  | arr (items : List Json)
  | obj (members : List (String × Json))
  deriving Inhabited, Repr

namespace Json

/-- An object from pairs, where a repeated key keeps its first place and its last value. -/
def ofPairs (pairs : List (String × Json)) : Json := .obj (Assoc.ofPairs pairs)

/-- A text or null. -/
def ofString? : Option String → Json
  | some s => .str s
  | none => .null

/-- The member of an object under a key. -/
def get? (key : String) : Json → Option Json
  | .obj members => members.lookup key
  | _ => none

/-- The name of a value's type, as messages about a misused value give it. -/
def typeName : Json → String
  | .null => "NoneType"
  | .bool _ => "bool"
  | .int _ => "int"
  | .float _ => "float"
  | .str _ => "str"
  | .arr _ => "list"
  | .obj _ => "dict"

mutual
/-- The number of levels of a value: one more than that of the deepest value it holds. -/
def depth : Json → Nat
  | .arr xs => depthOfItems xs + 1
  | .obj ms => depthOfMembers ms + 1
  | _ => 1

/-- The number of levels of the deepest of some items. -/
def depthOfItems : List Json → Nat
  | [] => 0
  | x :: xs => max x.depth (depthOfItems xs)

/-- The number of levels of the deepest value of some members. -/
def depthOfMembers : List (String × Json) → Nat
  | [] => 0
  | (_, x) :: ms => max x.depth (depthOfMembers ms)
end

/-- Whether a value counts as true: null, false, zero and whatever is empty do not. -/
def isTruthy : Json → Bool
  | .null => false
  | .bool b => b
  | .int n => n != 0
  | .float x => !x.isZero
  | .str s => !s.isEmpty
  | .arr xs => !xs.isEmpty
  | .obj ms => !ms.isEmpty

end Json

end Voicemail
