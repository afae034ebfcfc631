import Voicemail.Json.Display
import Voicemail.Json.Writer
import Voicemail.Log.Record
import Voicemail.Text.Character

/-!
# Log lines

Which records are shown, and how. A record of the client itself is shown from its threshold on,
which is the least level of all when the log is verbose; a record of anything else has to be a
warning at least. A record is one JSON object, or one line for a terminal with the stack and the
exception that it carries below it.
-/

namespace Voicemail

/-- How the log is shown. -/
structure LogView where
  verbose : Bool := false
  json : Bool := false
  deriving DecidableEq, Repr

namespace LogRecord

/-- The logger of the client; those of its parts stand below it. -/
def clientLogger : String := "vvmprov"

/-- Whether a logger is the client's or one of its parts'. -/
def isClientLogger (logger : String) : Bool :=
  logger = clientLogger || logger.startsWith (clientLogger ++ ".")

/-- The least level at which the records of a logger are shown. -/
def threshold (verbose : Bool) (logger : String) : LogLevel :=
  if verbose && isClientLogger logger then .debug else .warning

/-- Whether a record is shown. -/
def isShown (verbose : Bool) (r : LogRecord) : Bool :=
  (threshold verbose r.logger).rank ≤ r.level.rank

/-- The name of a record's logger; the one without a name is the root of all. -/
def loggerName (r : LogRecord) : String := if r.logger.isEmpty then "root" else r.logger

/-- The names that the log keeps to itself; fields under them are not shown. -/
def hiddenFields : List String := ["exc_info", "_record", "_from_structlog"]

/-- A record with everything that is shown of it. A field with the name of one of the record's own
parts gives way to that part. -/
def members (time : String) (r : LogRecord) : List (String × Json) :=
  Assoc.setAll (r.allFields.filter fun (key, _) => !hiddenFields.contains key)
    [("event", .str r.event), ("logger", .str r.loggerName), ("level", .str r.level.name),
      ("timestamp", .str time)]

/-- A record as a JSON value. -/
def toJson (time : String) (r : LogRecord) : Json :=
  .obj (match r.failure with
    | none => r.members time
    | some (kind, text) =>
      Assoc.set "exception" (.arr [.obj [("exc_type", .str kind), ("exc_value", .str text)]])
        (r.members time))

/-- Whether a text needs quotes after an equals sign. -/
def needsQuotes (s : String) : Bool := s.toList.any " \t=\r\n\"'".toList.contains

/-- A value after an equals sign. -/
def bare : Json → String
  | .str s => if needsQuotes s then Text.quoted s else s
  | v => v.inspect

/-- A text with blanks after it up to a width. -/
def padded (width : Nat) (s : String) : String :=
  s ++ String.ofList (List.replicate (width - s.length) ' ')

/-- The fields that have a place of their own. -/
def placedFields : List String :=
  ["", "timestamp", "level", "event", "logger", "logger_name", "stack", "exception"]

/-- A field as a key and a value. -/
def keyed (key : String) (v : Json) : String := key ++ "=" ++ bare v

/-- The fields of a line that show as a key and a value, sorted by key. -/
def keyedFields (fields : List (String × Json)) : List (String × Json) :=
  (fields.filter fun (key, _) => !placedFields.contains key).mergeSort fun a b => a.1 ≤ b.1

/-- A line without the blanks at its end. -/
def trimEnd (s : String) : String := String.ofList (s.toList.reverse.dropWhile (· = ' ')).reverse

/-- The rule between a stack and an exception. -/
def rule : String := String.ofList (List.replicate 79 '=')

/-- What stands below the line of a record: the stack that it carries, and the exception. There is
a rule below a stack where an exception was meant to follow. -/
def below (r : LogRecord) : List String :=
  let fields := r.allFields
  let raised := ((fields.lookup "exc_info").getD .null).isTruthy
  let exception := match fields.lookup "exception" with
    | some (.str s) => [s]
    | _ => []
  match fields.lookup "stack" with
  | some (.str s) =>
    s :: (if raised || !exception.isEmpty then ["", rule, ""] else []) ++ exception
  | _ => exception

/-- A record on a line of its own. -/
def line (time : String) (r : LogRecord) : String :=
  let fields := r.members time
  let first := ((fields.lookup "").map (keyed "")).toList
  let second := match fields.lookup "logger_name" with
    | some v => ["[" ++ v.display ++ "]"]
    | none => []
  let parts := first ++ [time, "[" ++ padded 9 r.level.name ++ "]", padded 30 r.event,
    "[" ++ r.loggerName ++ "]"] ++ second ++
    (keyedFields fields).map fun (key, v) => keyed key v
  "\n".intercalate (trimEnd (" ".intercalate (parts.filter fun p => !p.isEmpty)) :: r.below)

/-- A record as the log shows it. -/
def shown (view : LogView) (time : String) (r : LogRecord) : String :=
  if view.json then (r.toJson time).text else r.line time

/-- The lines of a text that ends with a line. -/
def linesOf (s : String) : List String := (Text.lines (s.toList ++ ['\n'])).map String.ofList

/-- The lines on which a terminal shows a record. -/
def lines (time : String) (r : LogRecord) : List String := linesOf (r.line time)

/-- The lines on which a terminal shows a record before the log is set up: a finished message
stands there by itself, from a warning on. -/
def bareLines (r : LogRecord) : List String :=
  if r.plain && LogLevel.warning.rank ≤ r.level.rank then linesOf r.event else []

end LogRecord

end Voicemail
