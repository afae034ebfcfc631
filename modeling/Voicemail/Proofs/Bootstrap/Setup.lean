import Voicemail.Proofs.Bootstrap.Commands
import Voicemail.Proofs.Session.Visit

/-!
# Courses of the setup

The setup of a mailbox is a visit in which the commands are sent (`runSession_visit`), and what is
concluded from its result (`run_conclude`). Only a visit that gives `true` leads to a request for
the status, and only a visit that fails for want of a network leads to a report here.
-/

namespace Voicemail.Bootstrap

open Client

variable {p : Platform} {b : Bootstrap} {identifier : String} {spanish pinSet : Bool}
  {c c' : Client} {calls : List Call} {reports : List String} {r : Except Failure Bool}

/-- The work of the setup in its session. -/
def work (p : Platform) (b : Bootstrap) (identifier : String) (spanish pinSet : Bool) :
    Work Bool := fun _ c calls reports r c' =>
  runCommands p b identifier spanish pinSet c = (r, c') ∧
    Commands p b identifier spanish pinSet c calls reports r c'

/-- A visit in which the commands of the setup are sent. -/
abbrev Session (p : Platform) (b : Bootstrap) (identifier : String) (spanish pinSet : Bool)
    (c : Client) : List Call → List String → Except Failure Bool → Client → Prop :=
  Visit p b.protocol.commands b.account b.networkTimeout (b.work p identifier spanish pinSet) c

/-- The commands are sent on a visit. -/
theorem runSession_visit (p : Platform) (identifier : String) (spanish pinSet : Bool) (c : Client)
    (hr : b.reporter.IsQuiet) :
    ∃ calls reports r c', runSession p b identifier spanish pinSet c = (r, c') ∧
      Session p b identifier spanish pinSet c calls reports r c' := by
  refine withSession_visit p b.protocol.commands b.account b.networkTimeout _ _ c ?_
  intro network c₁ hopen
  obtain ⟨c₂, hlog, hafter⟩ := After.log .bootstrap (by decide) .info
    "new_user.network_available" [] c₁
  have hopen₂ := hafter.session.trans hopen
  obtain ⟨calls, reports, r, c₃, hrun, hcommands⟩ :=
    runCommands_commands p identifier spanish pinSet hopen₂ hr
  exact ⟨c₂, calls, reports, r, c₃, hafter, by rw [bind_ok hlog, hrun], ⟨hrun, hcommands⟩,
    hcommands.follows.session.trans hopen₂⟩

/-- A visit of the setup changes nothing but draws and preferences, and whether a session is
open. -/
theorem Session.follows (h : Session p b identifier spanish pinSet c calls reports r c') :
    Follows { c with session := c'.session } calls reports c' :=
  Visit.follows (fun hW => hW.2.follows) h

/-- What the setup concludes from its session. -/
def conclude (b : Bootstrap) : Except Failure Bool → ClientM Outcome
  | .ok true => do
    b.confirm
    return .newUserSetupOk
  | .ok false => return .newUserSetupFailed
  | .error e =>
    if e.isNetworkUnavailable then do
      Client.log .bootstrap .warning "new_user.network_unavailable" [("error", .str e.message)]
      b.reporter.report .newUserSetupFailed
      return .newUserSetupFailed
    else throw e

/-- The setup is its session and the conclusion. -/
theorem run_conclude (h : runSession p b identifier spanish pinSet c = (r, c')) :
    run p b identifier spanish pinSet c = b.conclude r c' := by
  have hattempt : attempt (runSession p b identifier spanish pinSet) c = (.ok r, c') := by
    rw [attempt_apply, h]
  rw [run, bind_ok hattempt]
  match r with
  | .ok true | .ok false | .error e => rfl

/-- The request for the status does no more than to make certain calls. -/
def AsksBy (b : Bootstrap) (asked : List Call → Prop) : Prop :=
  ∀ c, ∃ r calls c', b.requestStatus c = (r, c') ∧ asked calls ∧ After c calls [] c'

/-- After a session that was carried through the status is asked for, and unless that fails in
another way than by input or output the setup succeeds. -/
theorem conclude_true {asked : List Call → Prop} (ha : b.AsksBy asked) (c : Client) :
    ∃ r calls c', b.conclude (.ok true) c = (r, c') ∧ asked calls ∧ After c calls [] c' ∧
      (r = .ok .newUserSetupOk ∨ ∃ e, r = .error e) := by
  obtain ⟨q, calls, c₁, hrequest, hasked, hafter₁⟩ := ha c
  have hattempt : attempt b.requestStatus c = (.ok q, c₁) := by
    rw [attempt_apply, hrequest]
  cases q with
  | ok =>
    refine ⟨_, calls, c₁, ?_, hasked, hafter₁, .inl rfl⟩
    have hconfirm : b.confirm c = (.ok (), c₁) := by rw [confirm, bind_ok hattempt]; rfl
    exact bind_ok hconfirm
  | error e =>
    by_cases hio : e.isIo = true
    · obtain ⟨c₂, hlog, hafter₂⟩ := After.log .bootstrap (by decide) .warning
        "new_user.status_request_failed" [("error", .str e.message)] c₁
      refine ⟨_, calls, c₂, ?_, hasked, hafter₁.quietly hafter₂, .inl rfl⟩
      have hconfirm : b.confirm c = (.ok (), c₂) := by
        rw [confirm, bind_ok hattempt]
        simp only [hio, if_true, hlog]
      exact bind_ok hconfirm
    · refine ⟨_, calls, c₁, ?_, hasked, hafter₁, .inr ⟨e, rfl⟩⟩
      have hconfirm : b.confirm c = (.error e, c₁) := by
        rw [confirm, bind_ok hattempt]
        simp only [hio]
        rfl
      exact bind_error hconfirm

/-- How the setup ends after its session: the reports that are added, and the result. -/
inductive Ending : Except Failure Bool → List String → Except Failure Outcome → Prop
  /-- The session was carried through, and so was the request for the status. -/
  | confirmed : Ending (.ok true) [] (.ok .newUserSetupOk)
  /-- The request for the status failed. -/
  | unconfirmed (e : Failure) : Ending (.ok true) [] (.error e)
  /-- The session ended before the tutorial. -/
  | ended : Ending (.ok false) [] (.ok .newUserSetupFailed)
  /-- There was no network. -/
  | unavailable {e : Failure} (he : e.isNetworkUnavailable = true) :
      Ending (.error e) [EventKind.newUserSetupFailed.name] (.ok .newUserSetupFailed)
  /-- Something else failed. -/
  | failed {e : Failure} (he : e.isNetworkUnavailable = false) : Ending (.error e) [] (.error e)

/-- Every session has an ending. The status is asked for after one that was carried through, and
nothing is called after another. -/
theorem conclude_ending {asked : List Call → Prop} (ha : b.AsksBy asked) (hr : b.reporter.IsQuiet)
    (r : Except Failure Bool) (c : Client) :
    ∃ r' calls reports c', b.conclude r c = (r', c') ∧ After c calls reports c' ∧
      Ending r reports r' ∧ (r = .ok true ∧ asked calls ∨ r ≠ .ok true ∧ calls = []) := by
  match r with
  | .ok true =>
    obtain ⟨r', calls, c', h, hasked, hafter, rfl | ⟨e, rfl⟩⟩ := conclude_true ha c
    · exact ⟨_, calls, [], c', h, hafter, .confirmed, .inl ⟨rfl, hasked⟩⟩
    · exact ⟨_, calls, [], c', h, hafter, .unconfirmed e, .inl ⟨rfl, hasked⟩⟩
  | .ok false => exact ⟨_, [], [], c, rfl, .refl c, .ended, .inr ⟨by simp, rfl⟩⟩
  | .error e =>
    cases he : e.isNetworkUnavailable with
    | true =>
      obtain ⟨c₁, hlog, hafter₁⟩ := After.log .bootstrap (by decide) .warning
        "new_user.network_unavailable" [("error", .str e.message)] c
      obtain ⟨c₂, hreport, hafter₂⟩ := hr.report .newUserSetupFailed c₁
      refine ⟨_, [], _, c₂, ?_, hafter₁.after_quiet hafter₂, .unavailable he,
        .inr ⟨by simp, rfl⟩⟩
      simp only [conclude, he, if_true]
      rw [bind_ok hlog, bind_ok hreport]
      rfl
    | false =>
      refine ⟨_, [], [], c, ?_, .refl c, .failed he, .inr ⟨by simp, rfl⟩⟩
      simp only [conclude, he]
      rfl

/-- How the setup goes: its session, and what is concluded from it. -/
theorem run_ending (p : Platform) (identifier : String) (spanish pinSet : Bool) (c : Client)
    {asked : List Call → Prop} (ha : b.AsksBy asked) (hr : b.reporter.IsQuiet) :
    ∃ calls reports r c₁, Session p b identifier spanish pinSet c calls reports r c₁ ∧
      ∃ r' more reports' c', run p b identifier spanish pinSet c = (r', c') ∧
        After c₁ more reports' c' ∧ Ending r reports' r' ∧
        (r = .ok true ∧ asked more ∨ r ≠ .ok true ∧ more = []) := by
  obtain ⟨calls, reports, r, c₁, hrun, hsession⟩ :=
    runSession_visit p identifier spanish pinSet c hr
  refine ⟨calls, reports, r, c₁, hsession, ?_⟩
  rw [run_conclude hrun]
  exact conclude_ending ha hr r c₁

end Voicemail.Bootstrap
