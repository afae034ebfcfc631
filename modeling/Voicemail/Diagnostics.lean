import Voicemail.Client
import Voicemail.Pin
import Voicemail.Protocol
import Voicemail.Report.Basic

/-!
# Diagnostics

What can be asked of a client without a network: the action for a status, PINs, the commands of a
protocol, and what is stored for an account. Secrets are masked in what is shown. The only question
that changes anything is the one that drains the outbox.
-/

namespace Voicemail.Client

/-- The protocol with a name, or the one of the settings where no name is given. -/
def protocolNamed (name : Option String) : ClientM Protocol := do
  let settings := (← get).settings
  let name := (name.filter fun s => !s.isEmpty).getD settings.provisioning.protocol
  Protocol.find name

namespace Diagnostics

/-- The questions by their names, each with the arguments that it needs and those it may get. -/
def questions : List (String × List String × List String) :=
  [("route", ["fields"], ["protocol"]), ("default_pin", ["identifier"], []),
    ("generate_pin", [], ["policy", "length"]), ("command_table", [], ["protocol"]),
    ("account", ["account_id"], []), ("drain_events", [], [])]

/-- The kind of what is asked, as messages name it. -/
def kindName : String := "DiagnosticsService"

/-- What is wrong with a question that is asked by name with named arguments, if anything is. -/
def fault? (question : String) (names : List String) : Option Failure :=
  match questions.lookup question with
  | none => some (.noMember kindName question)
  | some (needed, others) =>
    (Misuse.ofNames (kindName ++ "." ++ question) needed others names).map .misuse

/-- The action for a status response under a protocol. -/
def routed (status : StatusResponse) (protocol : Protocol) : Report :=
  match protocol.router.route status with
  | .error e =>
    .failure "route" "UNHANDLED_STATUS" e.message [("status", .str status.provisioningStatus)]
  | .ok action =>
    .success "route"
      [("protocol", .str protocol.name), ("status", .str status.provisioningStatus),
        ("return_code", .str status.returnCode), ("action", .str action.name)]
      (if protocol.supportsProvisioning then []
       else ["Protocol " ++ Text.quoted protocol.name ++ " does not run provisioning"])

/-- What the client would do about a status response. -/
def route (status : StatusResponse) (protocol : Option String) : ClientM Report := do
  match ← attempt (protocolNamed protocol) with
  | .ok protocol => return routed status protocol
  | .error e =>
    return .failure "route" "UNKNOWN_PROTOCOL" e.message
      [("status", .str status.provisioningStatus)]

/-- The PIN that a carrier derives from an identifier. -/
def defaultPin (identifier : String) : Report :=
  match Pin.derive? identifier with
  | some pin => .success "default_pin" [("identifier", .str identifier), ("pin", .str pin)]
  | none =>
    .failure "default_pin" "NOT_DERIVABLE"
      ("Cannot derive a default PIN from " ++ Text.quoted identifier)

/-- A length policy as a JSON value. -/
def policyJson (p : Pin.LengthPolicy) : Json :=
  .obj [("minimum", .int p.minimum), ("maximum", .int p.maximum)]

/-- A random PIN of a length, or of the least length of a policy. -/
def generatePin (policy : Option String) (length : Option Int) : ClientM Report := do
  let policy := Pin.LengthPolicy.parse policy (← get).settings.provisioning.defaultPinLength
  let length := length.getD policy.minimum
  match ← attempt (drawPin length) with
  | .ok pin =>
    return .success "generate_pin"
      [("length", .int length), ("pin", .str pin), ("policy", policyJson policy)]
  | .error e => return .failure "generate_pin" "INVALID_LENGTH" e.message

/-- The command templates of a protocol. -/
def commands (protocol : Option String) : ClientM Report := do
  match ← attempt (protocolNamed protocol) with
  | .error e => return .failure "commands" "UNKNOWN_PROTOCOL" e.message
  | .ok protocol =>
    match protocol.commands.toPairs with
    | .error e => throw (.command e)
    | .ok templates =>
      return .success "commands"
        [("protocol", .str protocol.name),
          ("commands", .obj (templates.map fun (name, template) => (name, .str template)))]

/-- The keys whose values are not shown. -/
def secretKeys : List String := [StatusResponse.passwordField, Preferences.pinKey]

/-- What stands for a secret. -/
def mask : String := "****"

/-- A stored value as it is shown. -/
def shown (key : String) : Option String → Json
  | none => .null
  | some value => .str (if secretKeys.contains key then mask else value)

/-- What is stored for an account, secrets masked. -/
def accountReport (p : Preferences) (account : String) : Report :=
  .success "prefs"
    [("account_id", .str account), ("enabled", .bool (p.isEnabled account)),
      ("default_old_pin_set", .bool (p.hasOldPin account)),
      ("pin_length_policy", .ofString? (p.get? account StatusResponse.pinLengthField)),
      ("preferences", .obj ((p.items account).map fun (key, value) => (key, shown key value)))]

/-- What is stored for an account, secrets masked. -/
def account (account : String) : ClientM Report := do
  return accountReport (← get).preferences account

/-- Delivers again every event that is owed; without a bus there is none. -/
def drainEvents : ClientM Report := do
  let replays ← if (← get).bus.isSome then drain else pure []
  return .success "drain_events"
    [("count", .int replays.length), ("events", .arr (replays.map (·.toJson)))]

end Diagnostics

end Voicemail.Client
