import Voicemail.Text.Quoted

/-!
# Faults of collaborators

The client relies on collaborators it does not control: the platform's network and message
services, the carrier's server, the self-service portal, and plugins. Any of them can fail at any
call. A fault has a kind, by which the client decides whether it can handle it, and a text.
-/

namespace Voicemail

/-- The kinds of faults. -/
inductive FaultKind where
  | io
  | timeout
  | connectionReset
  | permission
  | session
  | networkUnavailable
  | value
  | runtime
  | key
  deriving DecidableEq, Repr

/-- Whether a fault comes from input or output: a time limit, a lost connection and a refused
permission are faults of that kind. -/
def FaultKind.isIo : FaultKind → Bool
  | .io | .timeout | .connectionReset | .permission => true
  | _ => false

/-- A fault of a collaborator. -/
structure Fault where
  kind : FaultKind
  text : String
  deriving DecidableEq, Repr

/-- How a message shows a fault: its text, between quotes where the text is a key. -/
def Fault.message (f : Fault) : String :=
  match f.kind with
  | .key => Text.quoted f.text
  | _ => f.text

end Voicemail
