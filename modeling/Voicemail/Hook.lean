import Voicemail.Json.Value

/-!
# Hooks

The two calls by which plugins learn of events.
-/

namespace Voicemail

/-- A call that plugins can implement. -/
inductive Hook where
  /-- An event was reported. -/
  | vvmEvent
  /-- A provisioning attempt has ended. -/
  | postProvision
  deriving DecidableEq, Repr

namespace Hook

/-- Every hook. -/
def all : List Hook := [.vvmEvent, .postProvision]

/-- The name of a hook. -/
def name : Hook → String
  | .vvmEvent => "vvm_event"
  | .postProvision => "post_provision"

/-- The hook that a name stands for. -/
def ofName? (s : String) : Option Hook := all.find? (·.name = s)

/-- The arguments that an implementation of a hook takes, in order. -/
def argumentNames : Hook → List String
  | .vvmEvent => ["account_id", "protocol", "event", "detail"]
  | .postProvision => ["account_id", "protocol", "action", "outcome"]

end Hook

end Voicemail
