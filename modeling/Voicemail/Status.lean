import Voicemail.Issue
import Voicemail.Json.Value

/-!
# Status responses

The carrier's answer to a status query is a flat map of fields. Three of them decide what happens
next, and all are kept as they came, so that they can be stored for later sessions.
-/

namespace Voicemail

/-- The state of a subscriber that a carrier reports. -/
inductive ProvisioningStatus where
  | unknown
  | new
  | provisioned
  | blocked
  deriving DecidableEq, Repr

namespace ProvisioningStatus

/-- Every status. -/
def all : List ProvisioningStatus := [.unknown, .new, .provisioned, .blocked]

/-- The letter that stands for a status in a response. -/
def letter : ProvisioningStatus → String
  | .unknown => "U"
  | .new => "N"
  | .provisioned => "P"
  | .blocked => "B"

/-- The status that a letter stands for. -/
def ofLetter? (s : String) : Option ProvisioningStatus := all.find? (·.letter = s)

end ProvisioningStatus

/-- A status response. -/
structure StatusResponse where
  provisioningStatus : String
  returnCode : String
  subscriberIdentifier : String
  /-- Every field as it came. -/
  rawFields : List (String × String)
  deriving DecidableEq, Repr

namespace StatusResponse

/-- The field of the provisioning status. -/
def statusField : String := "st"

/-- The field of the return code. -/
def returnCodeField : String := "rc"

/-- The field of the user name, by which the subscriber is known. -/
def userNameField : String := "u"

/-- The field of the password. -/
def passwordField : String := "pw"

/-- The field of the PIN length policy. -/
def pinLengthField : String := "pw_len"

/-- The response with given fields; a field that is missing reads as empty. -/
def ofFields (fields : List (String × String)) : StatusResponse :=
  { provisioningStatus := (fields.lookup statusField).getD ""
    returnCode := (fields.lookup returnCodeField).getD ""
    subscriberIdentifier := (fields.lookup userNameField).getD ""
    rawFields := fields }

/-- The issue of a field that is no text. -/
def textIssue (place : List String) : Json → Option Issue
  | .str _ => none
  | _ => some ⟨place, .stringType⟩

/-- A field that is a text. -/
def textField? : String × Json → Option (String × String)
  | (k, .str v) => some (k, v)
  | _ => none

/-- The response with given fields, if each of them is a text. -/
def validate (fields : List (String × Json)) : Except (List Issue) StatusResponse :=
  let named (place key : String) := (fields.lookup key).bind (textIssue [place])
  let issues := [named "provisioning_status" statusField, named "return_code" returnCodeField,
    named "subscriber_identifier" userNameField].filterMap id ++
      fields.filterMap fun (k, v) => textIssue ["raw_fields", k] v
  if issues.isEmpty then .ok (ofFields (fields.filterMap textField?)) else .error issues

end StatusResponse

end Voicemail
