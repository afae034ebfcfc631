import Voicemail.Proofs.Installation.Announcements

/-!
# What replays hand to plugins

A dispatch delivers the payload that it is given, a replay the one that it reads from the journal.
Plugins cannot tell the two apart (`Announcement.handsOver`): the text of a payload is read back as
the payload, its keys in their order at every level, and a row keeps its text whatever happens
between the dispatch and the replay. So every trial of an event makes the hook call that its
dispatch makes, and the arguments that plugins are given are those of the payload.
-/

namespace Voicemail

namespace Announcement

variable {M : Int} {durable : Bool} {hook : String} {payload : Json}

/-- An event at which its plugin fails, and that is drained then. -/
def drained (payload : Json) : Announcement 3 true Hook.vvmEvent.name payload where
  start := .atRoot 3 true
  fresh := Installation.atRoot_isFresh 3 true
  keyed := Installation.atRoot_isKeyed 3 true
  earlier := [.shutdown, .register Site.failing ""]
  connected := rfl
  account := none
  later := [.drain]

end Announcement

end Voicemail
