import Voicemail.Lenient
import Voicemail.Reading
import Voicemail.Settings.Basic
import Voicemail.Settings.Source

/-!
# Reading settings

Settings out of the merged table of all sources. An option that is not mentioned has its default.
A section may hold options that nobody knows; a name beside the sections and switches has to be
known.
-/

namespace Voicemail

namespace Setting

variable {α : Type}

/-- A setting that is one value; for anything else there is one complaint. -/
def scalar (read : Json → Except Complaint α) (otherwise : Complaint) : Setting → Reading α
  | .value v => .ofLenient (read v)
  | _ => .complain otherwise

/-- A switch. -/
def bool : Setting → Reading Bool := scalar Lenient.bool .boolType

/-- An integer. -/
def int : Setting → Reading Int := scalar Lenient.int .intType

/-- A double. -/
def float : Setting → Reading Binary64 := scalar Lenient.float .floatType

/-- A text. -/
def string : Setting → Reading String := scalar Lenient.string .stringType

/-- A text or null. -/
def stringOrNull : Setting → Reading (Option String)
  | .value .null => .ok none
  | v => (string v).map some

/-- An integer in a range. -/
def intBetween (low high : Int) (v : Setting) : Reading Int :=
  match v.int with
  | .error is => .error is
  | .ok n =>
    if n < low then .complain .greaterThanEqual
    else if high < n then .complain .lessThanEqual
    else .ok n

/-- The options of a section. -/
def options : Setting → Reading (List (String × Setting))
  | .table ms => .ok ms
  | _ => .complain .modelType

/-- A section. -/
def sectionOf (read : List (String × Setting) → Reading α) (v : Setting) : Reading α :=
  match v.options with
  | .ok ms => read ms
  | .error is => .error is

end Setting

/-- How new users are provisioned, out of the options of a section. -/
def ProvisioningSettings.read (ms : List (String × Setting)) : Reading ProvisioningSettings :=
  let d : ProvisioningSettings := {}
  let protocol := Reading.optional Setting.string d.protocol "protocol" ms
  let timeout := Reading.optional Setting.float d.networkTimeout "network_timeout_seconds" ms
  let length :=
    Reading.optional (Setting.intBetween 1 10) d.defaultPinLength "default_pin_length" ms
  let locale := Reading.optional Setting.stringOrNull d.locale "locale" ms
  .ofIssues (protocol.issues ++ timeout.issues ++ length.issues ++ locale.issues)
    ⟨protocol.valueD d.protocol, timeout.valueD d.networkTimeout,
      length.valueD d.defaultPinLength, locale.valueD d.locale⟩

/-- Where messages go, out of the options of a section. -/
def SmsSettings.read (ms : List (String × Setting)) : Reading SmsSettings :=
  let d : SmsSettings := {}
  let port := Reading.optional Setting.int d.applicationPort "application_port" ms
  let number := Reading.optional Setting.string d.destinationNumber "destination_number" ms
  .ofIssues (port.issues ++ number.issues)
    ⟨port.valueD d.applicationPort, number.valueD d.destinationNumber⟩

/-- Where the state is kept, out of the options of a section. -/
def StoreSettings.read (ms : List (String × Setting)) : Reading StoreSettings :=
  let path := Reading.optional Setting.stringOrNull none "path" ms
  .ofIssues path.issues ⟨path.valueD none⟩

/-- How events are dispatched, out of the options of a section. -/
def EventSettings.read (ms : List (String × Setting)) : Reading EventSettings :=
  let d : EventSettings := {}
  let sync := Reading.optional Setting.bool d.sync "sync" ms
  let retries := Reading.optional Setting.int d.maxRetries "max_retries" ms
  let workers := Reading.optional Setting.int d.maxWorkers "max_workers" ms
  .ofIssues (sync.issues ++ retries.issues ++ workers.issues)
    ⟨sync.valueD d.sync, retries.valueD d.maxRetries, workers.valueD d.maxWorkers⟩

namespace Settings

/-- The names of the switches. -/
def switchNames : List String := ["json_output", "quiet", "verbose", "log_json", "sync"]

/-- The names of the sections with those of their options. -/
def sectionNames : List (String × List String) :=
  [("provisioning", ["protocol", "network_timeout_seconds", "default_pin_length", "locale"]),
    ("sms", ["application_port", "destination_number"]), ("store", ["path"]),
    ("events", ["sync", "max_retries", "max_workers"])]

/-- The names that the client sets itself. -/
def placeNames : List String := ["root", "config_path"]

/-- Whether a name is that of a switch, a section or a place. -/
def isKnown (name : String) : Bool :=
  placeNames.contains name || switchNames.contains name || Assoc.contains name sectionNames

/-- Settings out of a merged table, with the places that the client has found. -/
def read (root : Path) (configPath : Option Path) (ms : List (String × Setting)) :
    Reading Settings :=
  let switch (name : String) : Reading Bool := Reading.optional Setting.bool false name ms
  let jsonOutput := switch "json_output"
  let quiet := switch "quiet"
  let verbose := switch "verbose"
  let logJson := switch "log_json"
  let sync := switch "sync"
  let provisioning :=
    Reading.optional (Setting.sectionOf ProvisioningSettings.read) {} "provisioning" ms
  let sms := Reading.optional (Setting.sectionOf SmsSettings.read) {} "sms" ms
  let store := Reading.optional (Setting.sectionOf StoreSettings.read) {} "store" ms
  let events := Reading.optional (Setting.sectionOf EventSettings.read) {} "events" ms
  let unknown := (Assoc.keys ms).filter fun name => !isKnown name
  .ofIssues
    (jsonOutput.issues ++ quiet.issues ++ verbose.issues ++ logJson.issues ++ sync.issues ++
      provisioning.issues ++ sms.issues ++ store.issues ++ events.issues ++
      unknown.map fun name => ⟨[name], .extraForbidden⟩)
    { root, configPath
      jsonOutput := jsonOutput.valueD false
      quiet := quiet.valueD false
      verbose := verbose.valueD false
      logJson := logJson.valueD false
      sync := sync.valueD false
      provisioning := provisioning.valueD {}
      sms := sms.valueD {}
      store := store.valueD {}
      events := events.valueD {} }

end Settings

end Voicemail
