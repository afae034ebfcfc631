import Voicemail.Assoc
import Voicemail.Json.Value
import Voicemail.Toml.Value

/-!
# Sources of settings

Options come as arguments, from the environment and from a configuration document. Each source is
a table of options and sections. Tables are merged leaf by leaf: where two sources mention an
option the higher one wins, and what a source does not mention it does not hide.
-/

namespace Voicemail

/-- What a source gives for an option or a section. -/
inductive Setting where
  | value (v : Json)
  | table (members : List (String × Setting))
  /-- A list or a moment, which no option is. -/
  | other
  deriving Inhabited, Repr

namespace Setting

mutual
/-- A JSON value as a setting. -/
def ofJson : Json → Setting
  | .obj ms => .table (ofMembers ms)
  | .arr _ => .other
  | v => .value v

/-- The members of a JSON object as settings. -/
def ofMembers : List (String × Json) → List (String × Setting)
  | [] => []
  | (k, v) :: ms => (k, ofJson v) :: ofMembers ms
end

mutual
/-- A value of a configuration document as a setting. -/
def ofToml : Toml.Value → Setting
  | .bool b => .value (.bool b)
  | .int n => .value (.int n)
  | .float x => .value (.float x)
  | .str s => .value (.str s)
  | .moment _ | .arr _ => .other
  | .table ms => .table (ofTable ms)

/-- The members of a table of a configuration document as settings. -/
def ofTable : List (String × Toml.Value) → List (String × Setting)
  | [] => []
  | (k, v) :: ms => (k, ofToml v) :: ofTable ms
end

mutual
/-- A setting put over a lower one: two tables are merged, and else the higher setting stays. -/
def onTopOf (low : Option Setting) : Setting → Setting
  | .table high =>
    match low with
    | some (.table low) => .table (merge low high)
    | _ => .table high
  | v => v

/-- A table put over a lower one. -/
def merge (low : List (String × Setting)) : List (String × Setting) → List (String × Setting)
  | [] => low
  | (k, v) :: high => merge (Assoc.set k (onTopOf (low.lookup k) v) low) high
end

end Setting

end Voicemail
