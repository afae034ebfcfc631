import Voicemail.Number.Layout
import Voicemail.Path

/-!
# Settings

The options of the client, by section, with their defaults.
-/

namespace Voicemail

/-- How new users are provisioned. -/
structure ProvisioningSettings where
  protocol : String := "vvm3"
  /-- How long the client waits for a network, in seconds. -/
  networkTimeout : Binary64 := .ofInt 60
  /-- The length of a PIN where the carrier has no policy. -/
  defaultPinLength : Int := 6
  /-- The subscriber's locale; where there is none, the system's. -/
  locale : Option String := none
  deriving DecidableEq, Repr

/-- Where messages to the carrier go. -/
structure SmsSettings where
  applicationPort : Int := 0
  destinationNumber : String := ""
  deriving DecidableEq, Repr

/-- Where the client keeps its state. -/
structure StoreSettings where
  path : Option String := none
  deriving DecidableEq, Repr

/-- How events are dispatched. -/
structure EventSettings where
  sync : Bool := false
  maxRetries : Int := 3
  maxWorkers : Int := 2
  deriving DecidableEq, Repr

/-- The settings of a client. -/
structure Settings where
  root : Path
  configPath : Option Path
  jsonOutput : Bool := false
  quiet : Bool := false
  verbose : Bool := false
  logJson : Bool := false
  sync : Bool := false
  provisioning : ProvisioningSettings := {}
  sms : SmsSettings := {}
  store : StoreSettings := {}
  events : EventSettings := {}
  deriving DecidableEq, Repr

namespace Settings

/-- The file in which the client keeps its state. -/
def databasePath (s : Settings) : Path :=
  match s.store.path with
  | some path => if path.isEmpty then default else .ofString path
  | none => default
where
  default : Path := (s.root.join ".vvmprov").join "vvmprov.db"

/-- Whether events are delivered before a dispatch returns. -/
def dispatchSync (s : Settings) : Bool := s.sync || s.events.sync

end Settings

end Voicemail
