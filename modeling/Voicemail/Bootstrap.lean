import Voicemail.Pin
import Voicemail.Reporter
import Voicemail.Session

/-!
# New users

A new mailbox is set up in a session: the language is set, the carrier's default PIN is replaced by
a random one unless that was done before, and the tutorial is closed. The commands go out in this
order and the first that fails is the last. When the session and the network are released, the
client asks for the status again, so that it learns of the carrier's new state.
-/

namespace Voicemail

/-- The outcome of a provisioning attempt. -/
inductive Outcome where
  | subscribed
  | subscriberUnknown
  | newUserSetupOk
  | newUserSetupFailed
  | disabled
  | blocked
  deriving DecidableEq, Repr

/-- The name of an outcome. -/
def Outcome.name : Outcome → String
  | .subscribed => "subscribed"
  | .subscriberUnknown => "subscriber_unknown_nonrecoverable"
  | .newUserSetupOk => "new_user_setup_ok"
  | .newUserSetupFailed => "new_user_setup_failed"
  | .disabled => "disabled"
  | .blocked => "blocked"

/-- What the setup of a new mailbox needs. -/
structure Bootstrap where
  protocol : Protocol
  account : String
  reporter : Reporter
  /-- Asks the carrier for the status. -/
  requestStatus : ClientM Unit
  networkTimeout : TimeLimit
  /-- The length of a PIN where the carrier has no policy. -/
  defaultPinLength : Int

namespace Bootstrap

/-- Draws a PIN of the length that the account's policy asks for. -/
def newPin (b : Bootstrap) : ClientM String := do
  let policy := (← get).preferences.get? b.account StatusResponse.pinLengthField
  Client.drawPin (Pin.clampLength (Pin.minimumLength policy b.defaultPinLength))

/-- Replaces the default PIN of a mailbox; false if there is none to replace. That the carrier
refuses the new PIN does not end the setup: the subscriber can change it later. -/
def replaceDefaultPin (p : Platform) (b : Bootstrap) (identifier : String) : ClientM Bool := do
  match Pin.derive? identifier with
  | none =>
    Client.log .bootstrap .error "new_user.default_pin_not_derivable" []
    b.reporter.report .newUserSetupFailed
    return false
  | some old =>
    let new ← b.newPin
    match ← Client.changePin p new old with
    | .success =>
      Client.setOldPin b.account (some new)
      b.reporter.report .defaultPinReplaced
      Client.log .bootstrap .info "new_user.pin_set" []
    | .failure =>
      Client.log .bootstrap .warning "new_user.pin_change_rejected" []
      b.reporter.report .pinChangeRejected
    return true

/-- Sends the commands of the setup; false if it ended before the tutorial. -/
def runCommands (p : Platform) (b : Bootstrap) (identifier : String) (spanish pinSet : Bool) :
    ClientM Bool := do
  Client.setLanguage p (b.protocol.languageCode spanish)
  Client.log .bootstrap .info "new_user.language_set" [("spanish", .bool spanish)]
  let goOn ←
    if pinSet then do
      Client.log .bootstrap .info "new_user.pin_already_set" []
      pure true
    else replaceDefaultPin p b identifier
  if goOn then
    Client.closeTutorial p
    Client.log .bootstrap .info "new_user.tutorial_closed" []
  return goOn

/-- Sends the commands of the setup in a session of their own. -/
def runSession (p : Platform) (b : Bootstrap) (identifier : String) (spanish pinSet : Bool) :
    ClientM Bool :=
  Client.withSession p b.protocol.commands b.account b.networkTimeout fun _ => do
    Client.log .bootstrap .info "new_user.network_available" []
    runCommands p b identifier spanish pinSet

/-- Asks for the status after the setup. A fault of input or output does not undo the setup. -/
def confirm (b : Bootstrap) : ClientM Unit := do
  match ← Client.attempt b.requestStatus with
  | .ok () => return ()
  | .error e =>
    if e.isIo then
      Client.log .bootstrap .warning "new_user.status_request_failed" [("error", .str e.message)]
    else throw e

/-- Sets a new mailbox up. Without a network nothing is sent, and that is an outcome; every other
failure passes through after session and network are released. -/
def run (p : Platform) (b : Bootstrap) (identifier : String) (spanish pinSet : Bool) :
    ClientM Outcome := do
  match ← Client.attempt (runSession p b identifier spanish pinSet) with
  | .ok true =>
    b.confirm
    return .newUserSetupOk
  | .ok false => return .newUserSetupFailed
  | .error e =>
    if e.isNetworkUnavailable then
      Client.log .bootstrap .warning "new_user.network_unavailable" [("error", .str e.message)]
      b.reporter.report .newUserSetupFailed
      return .newUserSetupFailed
    else throw e

end Bootstrap

end Voicemail
