import Voicemail.Number.Binary64

/-!
# Configuration documents

The values of a configuration document in TOML. Dates and times are kept as they are written.
-/

namespace Voicemail.Toml

/-- A value of a document. -/
inductive Value where
  | bool (value : Bool)
  | int (value : Int)
  | float (value : Binary64)
  | str (value : String)
  | moment (written : String)
  | arr (items : List Value)
  | table (members : List (String × Value))
  deriving Inhabited, Repr

/-- The members of a table, in the order in which they were set. -/
abbrev Table := List (String × Value)

/-- A dotted key. -/
abbrev Key := List String

/-- Whether a value has parts. What has parts is closed once it is written. -/
def Value.isComposite : Value → Bool
  | .arr _ | .table _ => true
  | _ => false

end Voicemail.Toml
