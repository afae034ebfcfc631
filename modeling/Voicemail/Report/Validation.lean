import Voicemail.Lenient
import Voicemail.Reading
import Voicemail.Report.Basic

/-!
# Reading reports

A report out of a JSON value, or everything that is wrong with the value. Parts that a report does
not know are passed over.
-/

namespace Voicemail

namespace Report

/-- A text. -/
def string (v : Json) : Reading String := .ofLenient (Lenient.string v)

/-- A switch. -/
def bool (v : Json) : Reading Bool := .ofLenient (Lenient.bool v)

/-- An object of any values. -/
def members : Json → Reading (List (String × Json))
  | .obj ms => .ok ms
  | _ => .complain .dictType

/-- The texts of a list. -/
def strings : Json → Reading (List String)
  | .arr xs =>
    let parts := xs.zipIdx.map fun (x, i) => Reading.under (toString i) (string x)
    .ofIssues (parts.flatMap (·.issues)) (parts.map (·.valueD ""))
  | _ => .complain .listType

end Report

/-- The error of a report out of a JSON value. -/
def ReportError.read : Json → Reading ReportError
  | .obj ms =>
    let code := Reading.required Report.string "code" ms
    let message := Reading.required Report.string "message" ms
    let detail := Reading.optional Report.members [] "detail" ms
    .ofIssues (code.issues ++ message.issues ++ detail.issues)
      ⟨code.valueD "", message.valueD "", detail.valueD []⟩
  | _ => .complain .modelType

namespace Report

/-- The error of a report, which may be missing. -/
def errorOrNull : Json → Reading (Option ReportError)
  | .null => .ok none
  | v => (ReportError.read v).map some

/-- A report out of the members of a JSON object. -/
def read (ms : List (String × Json)) : Reading Report :=
  let ok := Reading.required bool "ok" ms
  let op := Reading.required string "op" ms
  let data := Reading.optional members [] "data" ms
  let warnings := Reading.optional strings [] "warnings" ms
  let error := Reading.optional errorOrNull none "error" ms
  .ofIssues (ok.issues ++ op.issues ++ data.issues ++ warnings.issues ++ error.issues)
    ⟨ok.valueD false, op.valueD "", data.valueD [], warnings.valueD [], error.valueD none⟩

end Report

end Voicemail
