import Voicemail.Failure
import Voicemail.Json.Display
import Voicemail.Json.Writer

/-!
# Reports

What an operation for people and scripts gives back: whether it succeeded, its name, its data, and
what went wrong. A report is written as JSON with all its parts, or as text with a line for each
item of data. Text is for people: nested values stand on one line, and a quiet report has no data.
-/

namespace Voicemail

/-- What went wrong. -/
structure ReportError where
  code : String
  message : String
  detail : List (String × Json) := []

/-- The result of an operation. -/
structure Report where
  ok : Bool
  op : String
  data : List (String × Json) := []
  warnings : List String := []
  error : Option ReportError := none

namespace ReportError

/-- An error as a JSON value. -/
def toJson (e : ReportError) : Json :=
  .obj [("code", .str e.code), ("message", .str e.message), ("detail", .obj e.detail)]

end ReportError

namespace Report

/-- The report of a success. -/
def success (op : String) (data : List (String × Json)) (warnings : List String := []) : Report :=
  { ok := true, op, data, warnings }

/-- The report of a failure. -/
def failure (op code message : String) (detail : List (String × Json) := []) : Report :=
  { ok := false, op, error := some { code, message, detail } }

/-- A report as a JSON value. -/
def toJson (r : Report) : Json :=
  .obj [("ok", .bool r.ok), ("op", .str r.op), ("data", .obj r.data),
    ("warnings", .arr (r.warnings.map .str)), ("error", (r.error.map (·.toJson)).getD .null)]

/-- The most levels of a value in a report in JSON. -/
def maxDepth : Nat := 255

/-- A report in JSON over several lines, if no item of its data or of its error's detail has too
many levels. -/
def json (r : Report) : Except Failure String :=
  let items := r.data ++ (r.error.map (·.detail)).getD []
  if items.all fun (_, v) => v.depth ≤ maxDepth then .ok r.toJson.prettyText
  else .error .reportTooDeep

/-- A value on the line of its key. -/
def inlineText : Json → String
  | .arr xs => (Json.arr xs).compactText
  | .obj ms => (Json.obj ms).compactText
  | v => v.display

/-- The line of an item of data. -/
def line (key : String) (v : Json) : String := "  " ++ key ++ ": " ++ inlineText v

/-- The lines of a report for people. -/
def lines (quiet : Bool) (r : Report) : List String :=
  if r.ok then
    ("OK: " ++ r.op) :: (if quiet then [] else r.data.map fun (key, v) => line key v)
  else
    ["ERROR: " ++ r.op ++ " - " ++ (r.error.map (·.message)).getD "Unknown error"]

/-- A report for people. -/
def text (quiet : Bool) (r : Report) : String := "\n".intercalate (r.lines quiet)

/-- A report in one of its forms. -/
def format (json quiet : Bool) (r : Report) : Except Failure String :=
  if json then r.json else .ok (r.text quiet)

end Report

end Voicemail
