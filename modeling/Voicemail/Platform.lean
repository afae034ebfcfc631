import Voicemail.Fault
import Voicemail.Transcript

/-!
# The platform

What a client asks of its collaborators is a `Call`; what it gets back depends on the call. A
platform is any behaviour of all of them together: it answers a call, or faults, by what it was
asked before.
-/

namespace Voicemail

/-- What the platform says about a request for a network. -/
inductive NetworkReply where
  | available (network : String)
  | unavailable
  deriving DecidableEq, Repr

/-- A request for a network that the platform has taken. -/
structure NetworkGrant where
  /-- What the request is released by. -/
  token : String
  /-- What the platform said in time, oldest first. -/
  replies : List NetworkReply
  deriving DecidableEq, Repr

/-- What a call gives back when it does not fault. -/
@[reducible] def Call.Answer : Call → Type
  | .requestNetwork _ => NetworkGrant
  | .execute _ => String
  | .releaseNetwork _ | .openSession _ _ | .closeSession | .sendMessage _ _ _ | .subscribe _ _
  | .requestStatus => Unit

/-- A behaviour of the collaborators. -/
structure Platform where
  /-- The answer to a call, by the calls that went before it. -/
  respond : (history : List Call) → (c : Call) → Except Fault c.Answer

end Voicemail
