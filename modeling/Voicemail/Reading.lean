import Voicemail.Issue

/-!
# Readings

Reading an input of many parts gives its value or every issue of it. The parts are read on their
own, and their issues are put together in the order of the parts.
-/

namespace Voicemail

/-- The outcome of reading one part of an input. -/
abbrev Reading (α : Type) := Except (List Issue) α

namespace Reading

variable {α β : Type}

/-- The value of a reading, and a stand-in where there is none. -/
def valueD (r : Reading α) (default : α) : α :=
  match r with
  | .ok v => v
  | .error _ => default

/-- What is wrong with a part. -/
def issues : Reading α → List Issue
  | .ok _ => []
  | .error is => is

/-- The reading of a part under a key. -/
def under (key : String) : Reading α → Reading α := Except.mapError (·.map (·.under key))

/-- A complaint about a part as a whole. -/
def complain (c : Complaint) : Reading α := .error [⟨[], c⟩]

/-- A reading with one complaint at most. -/
def ofLenient : Except Complaint α → Reading α
  | .ok v => .ok v
  | .error c => complain c

/-- The value of an input whose parts have these issues. -/
def ofIssues (issues : List Issue) (v : α) : Reading α :=
  if issues.isEmpty then .ok v else .error issues

/-- A part that has to be there. -/
def required (read : β → Reading α) (key : String) (parts : List (String × β)) : Reading α :=
  match parts.lookup key with
  | some v => under key (read v)
  | none => .error [⟨[key], .missing⟩]

/-- A part that may be left out. -/
def optional (read : β → Reading α) (default : α) (key : String) (parts : List (String × β)) :
    Reading α :=
  match parts.lookup key with
  | some v => under key (read v)
  | none => .ok default

end Reading

end Voicemail
