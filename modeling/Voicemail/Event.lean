import Voicemail.Json.Value

/-!
# Events

What a provisioning attempt reports to the outside, and how grave a protocol takes it to be.
-/

namespace Voicemail

/-- The kinds of reported events. -/
inductive EventKind where
  | subscriberUnknown
  | subscriberBlocked
  | newUserSetupFailed
  | defaultPinReplaced
  | pinChangeRejected
  deriving DecidableEq, Repr

namespace EventKind

/-- Every kind. -/
def all : List EventKind :=
  [.subscriberUnknown, .subscriberBlocked, .newUserSetupFailed, .defaultPinReplaced,
    .pinChangeRejected]

/-- The name of a kind. -/
def name : EventKind → String
  | .subscriberUnknown => "subscriber_unknown"
  | .subscriberBlocked => "subscriber_blocked"
  | .newUserSetupFailed => "new_user_setup_failed"
  | .defaultPinReplaced => "default_pin_replaced"
  | .pinChangeRejected => "pin_change_rejected"

/-- The kind that a name stands for. -/
def ofName? (s : String) : Option EventKind := all.find? (·.name = s)

/-- Whether an event ends an attempt without a working mailbox. -/
def isError : EventKind → Bool
  | .subscriberUnknown | .subscriberBlocked | .newUserSetupFailed => true
  | _ => false

end EventKind

/-- How grave an event is. -/
inductive Severity where
  | info
  | warning
  | error
  deriving DecidableEq, Repr

/-- The name of a severity. -/
def Severity.name : Severity → String
  | .info => "info"
  | .warning => "warning"
  | .error => "error"

/-- What a protocol says about an event. -/
structure Classification where
  severity : Severity
  /-- Whether the subscriber has to call the carrier. -/
  contactSupport : Bool
  deriving DecidableEq, Repr

namespace Classification

/-- A classification as part of an event's payload. -/
def toJson (c : Classification) : Json :=
  .obj [("severity", .str c.severity.name), ("contact_support", .bool c.contactSupport)]

/-- The classification of the base protocol: an error, or information. -/
def base (e : EventKind) : Classification :=
  ⟨if e.isError then .error else .info, false⟩

/-- The classification of the extended protocol: a rejected PIN is a warning, and an unknown or a
blocked subscriber cannot be helped on the device. -/
def extended (e : EventKind) : Classification :=
  ⟨if e = .pinChangeRejected then .warning else if e.isError then .error else .info,
    e = .subscriberUnknown || e = .subscriberBlocked⟩

end Classification

end Voicemail
