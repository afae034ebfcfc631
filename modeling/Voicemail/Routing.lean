import Voicemail.Failure
import Voicemail.Status

/-!
# Routing

A router says what to do about a status response. It is a table from status to action; an unknown
subscriber whose return code offers self-service is sent there before the table is looked at.
-/

namespace Voicemail

/-- What the client does about a status. -/
inductive Action where
  | selfProvision
  | reportUnknownSubscriber
  | provisionNewUser
  | disableService
  | reportBlocked
  deriving DecidableEq, Repr

namespace Action

/-- Every action. -/
def all : List Action :=
  [.selfProvision, .reportUnknownSubscriber, .provisionNewUser, .disableService, .reportBlocked]

/-- The name of an action. -/
def name : Action → String
  | .selfProvision => "self_provision"
  | .reportUnknownSubscriber => "report_unknown_subscriber"
  | .provisionNewUser => "provision_new_user"
  | .disableService => "disable_service"
  | .reportBlocked => "report_blocked"

/-- The action that a name stands for. -/
def ofName? (s : String) : Option Action := all.find? (·.name = s)

end Action

/-- A routing table. -/
structure Router where
  routes : List (ProvisioningStatus × Action)
  /-- The return code with which an unknown subscriber may provision themselves. -/
  selfProvisionCode : String
  deriving DecidableEq, Repr

namespace Router

/-- The usual routes. -/
def standard : Router :=
  { routes := [(.unknown, .reportUnknownSubscriber), (.new, .provisionNewUser),
      (.provisioned, .disableService), (.blocked, .reportBlocked)]
    selfProvisionCode := "2" }

/-- The action for a status response, if there is a rule. -/
def route? (r : Router) (s : StatusResponse) : Option Action :=
  match ProvisioningStatus.ofLetter? s.provisioningStatus with
  | none => none
  | some status =>
    if status = .unknown ∧ s.returnCode = r.selfProvisionCode then some .selfProvision
    else r.routes.lookup status

/-- The action for a status response. -/
def route (r : Router) (s : StatusResponse) : Except Failure Action :=
  match r.route? s with
  | some a => .ok a
  | none => .error (.unhandledStatus s.provisioningStatus)

end Router

end Voicemail
