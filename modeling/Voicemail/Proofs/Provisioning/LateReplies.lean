import Voicemail.Proofs.Provisioning.Congruence
import Voicemail.Proofs.Session.Acquisition

/-!
# Late replies do not matter

Platforms that give the same answers, but for what they reply about a network after the first time
(`Platform.SameButLate`), are the same to an attempt. The commands of a setup agree on them
(`Bootstrap.runCommands_agree`), which is all that is asked of the body of a block for its late
replies to change nothing (`Client.Scoped.late`). So the session of a setup agrees
(`Bootstrap.runSession_agree`), and with it the whole attempt (`Attempt.provision_agree`): it comes to
the same outcome or failure, makes the same calls, stores and journals the same and writes the same
records, but for those of the network.
-/

namespace Voicemail

open Client

variable {p p' : Platform}

namespace Bootstrap

variable (h : p.SameButLate p') (b : Bootstrap)
  (hr : ∀ e, Agree (b.reporter.report e) (b.reporter.report e)) (identifier : String)
  (spanish pinSet : Bool)
include h hr

/-- The commands of a setup agree on platforms that differ in late replies. -/
theorem runCommands_agree :
    Agree (runCommands p b identifier spanish pinSet)
      (runCommands p' b identifier spanish pinSet) := by
  have hc := Agree.isCongruence h b.account
  exact runCommands_congr hc hr (conceals_of_draw hc .draw) identifier spanish pinSet

/-- So does the session in which they are sent, with any time limit. -/
theorem runSession_agree :
    Agree (runSession p b identifier spanish pinSet)
      (runSession p' b identifier spanish pinSet) := by
  refine withSession_agree h b.protocol.commands fun _ => (Agree.log _ _ _ _).bind fun _ => ?_
  exact runCommands_agree h b hr identifier spanish pinSet

end Bootstrap

/-- A report to the bus does not read what the network logs. -/
theorem Reporter.toBus_agree (protocol : Protocol) (account : String) (e : EventKind) :
    Agree ((toBus protocol account).report e) ((toBus protocol account).report e) :=
  (Agree.log _ _ _ _).bind fun _ => (Agree.dispatchQuietly _ _ _).discard

namespace Attempt

/-- Attempts agree on platforms that differ in late replies. -/
theorem provision_agree (h : p.SameButLate p') (a : Attempt) (s : StatusResponse) :
    Agree (a.provision p s) (a.provision p' s) := by
  have hconfuses := a.confuses_self (Agree.isCongruence h a.account)
    (fun _ _ _ _ => withSession_agree h a.protocol.commands)
    (Reporter.toBus_agree a.protocol a.account) .draw s
  have hroute : Agree (a.route p s) (a.route p' s) :=
    hconfuses.route_congr fun _ _ => (Agree.dispatchQuietly _ _ _).discard
  have hwithin := hroute.within a.account a.protocol.name
  unfold provision
  split
  · exact hwithin
  · exact (Agree.throw _).bind fun _ => hwithin

end Attempt

end Voicemail
