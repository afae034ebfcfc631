import Voicemail.Bootstrap

/-!
# Provisioning

The entry points that a status response or the user reaches: a request to activate or to deactivate
the service, and `provision`, which routes a status response and carries out its action. Only the
setup of a new user touches the network. While the client works for an account its records are
tagged with the account and the protocol.
-/

namespace Voicemail

/-- What one attempt is made for. -/
structure Attempt where
  account : String
  protocol : Protocol
  /-- The subscriber's locale, if it is known. -/
  locale : Option String

namespace Attempt

/-- Sends the carrier a message with a request, if the protocol has such messages. -/
def send (p : Platform) (a : Attempt) (r : Request) : ClientM Unit := do
  if a.protocol.sender.sends r then
    let sms := (← get).settings.sms
    Client.perform p (.sendMessage sms.destinationNumber sms.applicationPort r.text)

/-- Asks the carrier to activate the service. A protocol without a message for that asks for the
status; a new subscriber's status then starts the setup. -/
def activate (p : Platform) (a : Attempt) : ClientM Unit :=
  Client.within a.account a.protocol.name do
    Client.log .provisioning .info "vvm.activating" []
    a.send p (if a.protocol.activatesViaStatusRequest then .status else .activation)

/-- Asks the carrier to deactivate the service, if the protocol can. -/
def deactivate (p : Platform) (a : Attempt) : ClientM Unit :=
  Client.within a.account a.protocol.name do
    if a.protocol.supportsDeactivation then
      a.send p .deactivation
    else
      Client.log .provisioning .debug "vvm.deactivation_unsupported" []

/-- The first of the locales of the subscriber, the settings and the system that is there. -/
def effectiveLocale (a : Attempt) (c : Client) : Option String :=
  let given := fun (l : Option String) => l.filter fun tag => !tag.isEmpty
  given a.locale <|> given c.settings.provisioning.locale <|> c.systemLocale

/-- The setup of a new mailbox for an attempt. -/
def bootstrap (p : Platform) (a : Attempt) (s : ProvisioningSettings) : Bootstrap :=
  { protocol := a.protocol
    account := a.account
    reporter := .toBus a.protocol a.account
    requestStatus := a.send p .status
    networkTimeout := .real s.networkTimeout
    defaultPinLength := s.defaultPinLength }

/-- Sets up a new user. The fields of the status are stored first, so that a later session finds
the credentials; a failure of the session or of input and output is reported and is an outcome. -/
def setUpNewUser (p : Platform) (a : Attempt) (s : StatusResponse) : ClientM Outcome := do
  Client.putStatus a.account s.rawFields
  let c ← get
  let b := a.bootstrap p c.settings.provisioning
  let spanish := isSpanishLocale (a.effectiveLocale c)
  match ← Client.attempt
      (b.run p s.subscriberIdentifier spanish (c.preferences.hasOldPin a.account)) with
  | .ok outcome => return outcome
  | .error e =>
    if e.isSession || e.isIo then
      Client.log .provisioning .error "new_user.setup_failed" [("error", .str e.message)]
      b.reporter.report .newUserSetupFailed
      return .newUserSetupFailed
    else throw e

/-- Carries out an action. -/
def carryOut (p : Platform) (a : Attempt) (s : StatusResponse) : Action → ClientM Outcome
  | .selfProvision => do
    Client.perform p (.subscribe s (← get).context)
    return .subscribed
  | .reportUnknownSubscriber => do
    (Reporter.toBus a.protocol a.account).report .subscriberUnknown
    return .subscriberUnknown
  | .provisionNewUser => a.setUpNewUser p s
  | .disableService => do
    Client.setEnabled a.account false
    return .disabled
  | .reportBlocked => do
    (Reporter.toBus a.protocol a.account).report .subscriberBlocked
    return .blocked

/-- The arguments with which plugins see the end of an attempt. -/
def closing (a : Attempt) (action : Action) (outcome : Outcome) : List (String × Json) :=
  [("account_id", .str a.account), ("protocol", .str a.protocol.name),
    ("action", .str action.name), ("outcome", .str outcome.name)]

/-- Routes a status and carries out its action. -/
def route (p : Platform) (a : Attempt) (s : StatusResponse) : ClientM Outcome := do
  match a.protocol.router.route s with
  | .error e =>
    Client.log .provisioning .error "provision.unhandled_status"
      [("status", .str s.provisioningStatus), ("return_code", .str s.returnCode)]
    throw e
  | .ok action =>
    Client.log .provisioning .info "provision.start"
      [("status", .str s.provisioningStatus), ("action", .str action.name)]
    let outcome ← a.carryOut p s action
    Client.log .provisioning .info "provision.done"
      [("action", .str action.name), ("outcome", .str outcome.name)]
    discard (Client.dispatchQuietly Hook.postProvision.name (.obj (a.closing action outcome))
      (some a.account))
    return outcome

/-- Provisions the account as a status response asks. -/
def provision (p : Platform) (a : Attempt) (s : StatusResponse) : ClientM Outcome := do
  unless a.protocol.supportsProvisioning do
    throw (.provisioningUnsupported a.protocol.name)
  Client.within a.account a.protocol.name (a.route p s)

end Attempt

end Voicemail
