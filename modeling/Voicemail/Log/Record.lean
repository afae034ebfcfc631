import Voicemail.Json.Value

/-!
# Log records

A record has a level, a source, an event and fields. Records of the structured kind carry their
fields as they were given; records of the plain kind carry a finished message. Every record is
tagged with the context that was bound when it was written: while the client works for an account,
the account and the protocol.
-/

namespace Voicemail

/-- How important a record is. -/
inductive LogLevel where
  | debug
  | info
  | warning
  | error
  | critical
  deriving DecidableEq, Repr

namespace LogLevel

/-- Every level, from the least important on. -/
def all : List LogLevel := [.debug, .info, .warning, .error, .critical]

/-- The name of a level. -/
def name : LogLevel → String
  | .debug => "debug"
  | .info => "info"
  | .warning => "warning"
  | .error => "error"
  | .critical => "critical"

/-- The level that a name stands for. -/
def ofName? (s : String) : Option LogLevel := all.find? (·.name = s)

/-- The rank of a level. -/
def rank : LogLevel → Nat
  | .debug => 10
  | .info => 20
  | .warning => 30
  | .error => 40
  | .critical => 50

end LogLevel

/-- The parts of the client that write records. -/
inductive LogSource where
  | provisioning
  | bootstrap
  | reporting
  | eventLog
  | service
  | network
  | session
  | preferences
  | eventBus
  | plugins
  deriving DecidableEq, Repr

/-- The name of the logger of a part. -/
def LogSource.logger : LogSource → String
  | .provisioning => "vvmprov.services.provisioning"
  | .bootstrap => "vvmprov.services.bootstrap"
  | .reporting => "vvmprov.services.reporting"
  | .eventLog => "vvmprov.plugins.builtins.event_log"
  | .service => "vvmprov.services.base"
  | .network => "vvmprov.infrastructure.network"
  | .session => "vvmprov.infrastructure.session"
  | .preferences => "vvmprov.infrastructure.preferences"
  | .eventBus => "vvmprov.plugins.event_bus"
  | .plugins => "vvmprov.plugins.manager"

/-- The tags that are bound while the client works for an account. -/
abbrev LogContext := List (String × Json)

namespace LogContext

/-- No tags. -/
def empty : LogContext := []

/-- Binds the account and the protocol that the client works for. -/
def bind (account protocol : String) (c : LogContext) : LogContext :=
  Assoc.setAll c [("account_id", .str account), ("protocol", .str protocol)]

end LogContext

/-- A log record. -/
structure LogRecord where
  level : LogLevel
  logger : String
  /-- Whether the event is a finished message. -/
  plain : Bool
  event : String
  fields : List (String × Json)
  context : LogContext
  /-- The kind and the text of the failure that the record tells of. -/
  failure : Option (String × String) := none
  deriving Repr

namespace LogRecord

/-- All tags and fields of a record; a field wins over a tag of its name. -/
def allFields (r : LogRecord) : List (String × Json) := Assoc.setAll r.context r.fields

end LogRecord

end Voicemail
