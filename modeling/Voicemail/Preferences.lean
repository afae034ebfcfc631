import Voicemail.Assoc
import Voicemail.Json.Value
import Voicemail.Status

/-!
# Preferences

The preferences of all accounts in one map from account and key to a text or null. A key that is
absent and a key that is null read alike; only the listing of an account tells them apart. Carrier
fields are stored under their own keys beside the client's two: the PIN to present as the old one,
and whether the service is enabled.
-/

namespace Voicemail

/-- The stored preferences: at most one entry for an account and a key. -/
structure Preferences where
  entries : List ((String × String) × Option String)
  deriving DecidableEq, Repr, Inhabited

namespace Preferences

/-- The key of the PIN to present as the old one at the next change. -/
def pinKey : String := "default_old_pin"

/-- The key that says whether the service is enabled. -/
def enabledKey : String := "is_enabled"

/-- No preferences. -/
def empty : Preferences := ⟨[]⟩

/-- What is stored for an account under a key: nothing, null or a text. -/
def find? (p : Preferences) (account key : String) : Option (Option String) :=
  p.entries.lookup (account, key)

/-- The text for an account under a key. -/
def get? (p : Preferences) (account key : String) : Option String :=
  (p.find? account key).join

/-- The text for an account under a key, or another answer where there is none. -/
def getOr (p : Preferences) (account key : String) (default : Option String) : Option String :=
  (p.get? account key).or default

/-- Stores a text or null for an account under a key. -/
def put (p : Preferences) (account key : String) (value : Option String) : Preferences :=
  ⟨Assoc.set (account, key) value p.entries⟩

/-- Stores several texts or nulls for an account. -/
def putMany (p : Preferences) (account : String) (values : List (String × Option String)) :
    Preferences :=
  values.foldl (fun p kv => p.put account kv.1 kv.2) p

/-- Stores every field of a status response for an account. -/
def putStatus (p : Preferences) (account : String) (fields : List (String × String)) :
    Preferences :=
  p.putMany account (fields.map fun kv => (kv.1, some kv.2))

/-- Removes a key of an account. -/
def remove (p : Preferences) (account key : String) : Preferences :=
  ⟨Assoc.erase (account, key) p.entries⟩

/-- Every key of an account with its text or null, in the order of the keys. -/
def items (p : Preferences) (account : String) : List (String × Option String) :=
  (p.entries.filterMap fun e => if e.1.1 = account then some (e.1.2, e.2) else none).mergeSort
    fun a b => decide (a.1 ≤ b.1)

/-- The PIN to present as the old one, if the client has set one. -/
def oldPin? (p : Preferences) (account : String) : Option String := p.get? account pinKey

/-- Whether the client has set a PIN. -/
def hasOldPin (p : Preferences) (account : String) : Bool := (p.oldPin? account).isSome

/-- Records the PIN to present as the old one, or clears it. -/
def setOldPin (p : Preferences) (account : String) : Option String → Preferences
  | some pin => p.put account pinKey (some pin)
  | none => p.remove account pinKey

/-- Whether the service is enabled; it is unless the preference says otherwise. -/
def isEnabled (p : Preferences) (account : String) : Bool :=
  (p.get? account enabledKey).getD "true" = "true"

/-- Enables or disables the service. -/
def setEnabled (p : Preferences) (account : String) (enabled : Bool) : Preferences :=
  p.put account enabledKey (some (if enabled then "true" else "false"))

end Preferences

end Voicemail
