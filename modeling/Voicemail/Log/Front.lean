import Voicemail.Log.Record
import Voicemail.Misuse

/-!
# Log fronts

A structured record is written by a call whose names are the record's fields, so a field that has
the name of one of the call's own arguments clashes with it. Until the log is set up the calls go to
a bare front, afterwards to the one that was set up; the two differ in the names by which messages
know them.
-/

namespace Voicemail

/-- Where structured records are written. -/
inductive LogFront where
  | bare
  | ready
  deriving DecidableEq, Repr

namespace LogFront

/-- The function that writes a record of a level. -/
def writer (level : LogLevel) : LogFront → String
  | .bare => "_make_filtering_bound_logger.<locals>.make_method.<locals>.meth"
  | .ready => "BoundLogger." ++ level.name

/-- The module of a front, which messages about a name given twice tell. -/
def moduleName : LogFront → String
  | .bare => "structlog._native."
  | .ready => "structlog.stdlib."

/-- The function to which the writer passes a record on. -/
def relay : LogFront → String
  | .bare => "BoundLoggerBase._proxy_to_logger"
  | .ready => "BoundLogger._proxy_to_logger"

/-- What is wrong with fields beside others that the call names itself, if anything is. A field
that the call names too comes first, then one that is an argument of the writer, then one that is
an argument of what the writer passes the record on to. -/
def clash? (front : LogFront) (level : LogLevel) (named fields : List String) : Option Misuse :=
  let writer := front.writer level
  (fields.find? named.contains).map (.repeatedName (front.moduleName ++ writer)) <|>
    (fields.find? ["event", "self"].contains).map (.repeatedArgument writer) <|>
    (fields.find? (· = "method_name")).map (.repeatedArgument front.relay)

end LogFront

end Voicemail
