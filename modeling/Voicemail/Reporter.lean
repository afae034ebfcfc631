import Voicemail.Client
import Voicemail.Protocol

/-!
# Reporting events

An event that a provisioning attempt reports goes out with what its protocol says about it.
-/

namespace Voicemail

/-- Where the events of one account go. -/
structure Reporter where
  protocol : Protocol
  account : String
  /-- Sends a hook call on its way. -/
  send : Hook → List (String × Json) → ClientM Unit

namespace Reporter

/-- The arguments with which plugins see an event. -/
def payload (protocol : Protocol) (account : String) (e : EventKind) : List (String × Json) :=
  [("account_id", .str account), ("protocol", .str protocol.name), ("event", .str e.name),
    ("detail", (protocol.classify e).toJson)]

/-- Reports an event. -/
def report (r : Reporter) (e : EventKind) : ClientM Unit := do
  Client.log .reporting .debug "vvm.report" [("vvm_event", .str e.name)]
  r.send .vvmEvent (payload r.protocol r.account e)

/-- A reporter to the client's own bus. -/
def toBus (protocol : Protocol) (account : String) : Reporter :=
  { protocol, account
    send := fun hook payload =>
      discard (Client.dispatchQuietly hook.name (.obj payload) (some account)) }

end Reporter

end Voicemail
