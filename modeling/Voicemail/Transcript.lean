import Voicemail.Hook
import Voicemail.Log.Record
import Voicemail.Status

/-!
# Transcripts

What a client did, in the order in which it did it: what it asked of its collaborators, which
plugins it called, and what it wrote to the log. Collaborators may answer by what they were asked
before, so the calls of a transcript are also the history that they see.
-/

namespace Voicemail

/-- What a client asks of a collaborator. -/
inductive Call where
  | requestNetwork (account : String)
  | releaseNetwork (token : String)
  | openSession (network account : String)
  | execute (command : String)
  | closeSession
  | sendMessage (destination : String) (port : Int) (text : String)
  | subscribe (status : StatusResponse) (context : LogContext)
  | requestStatus
  deriving Repr

/-- One thing that a client did. -/
inductive Entry where
  | call (c : Call)
  | hook (plugin : String) (hook : Hook) (arguments : List Json)
  | record (r : LogRecord)
  /-- A mark that the user of the library leaves between the client's own entries. -/
  | mark (label : String) (details : List Json)
  deriving Repr

namespace Entry

/-- The call of an entry, if it is one. -/
def call? : Entry → Option Call
  | .call c => some c
  | _ => none

/-- The record of an entry, if it is one. -/
def record? : Entry → Option LogRecord
  | .record r => some r
  | _ => none

/-- Whether an entry is a record. -/
def isRecord (e : Entry) : Bool := e.record?.isSome

/-- Whether an entry is a call of a plugin. -/
def isHook : Entry → Bool
  | .hook _ _ _ => true
  | _ => false

end Entry

/-- What a client did, oldest first. -/
abbrev Transcript := List Entry

namespace Transcript

/-- The calls of a transcript. -/
def calls (t : Transcript) : List Call := t.filterMap Entry.call?

/-- The log records of a transcript. -/
def records (t : Transcript) : List LogRecord := t.filterMap Entry.record?

end Transcript

end Voicemail
