import Voicemail.Proofs.Bootstrap.Plan
import Voicemail.Proofs.Preferences

/-!
# The new PIN

A setup draws a new PIN and asks the server to take it. Whether it did is known from its response
only, so the stored PIN has to follow that response and nothing else: it is the new one exactly if
the server accepted it, whatever fails later (`Bootstrap.run_tracksPin`). The two events that tell
of the change follow it likewise.
-/

namespace Voicemail

open Client

/-! ## The change that was sent -/

/-- A change of the PIN as it was sent: the new PIN, and what came of it. -/
structure SentPin where
  new : String
  answer : Except Fault String

namespace SentPin

/-- The new PIN, if the server accepted it. -/
def adopted? (s : SentPin) : Option String := if accepts s.answer then some s.new else none

/-- Whether the server responded, and did not accept. -/
def isRejected (s : SentPin) : Bool := s.answer.isOk && !accepts s.answer

end SentPin

/-- The change of the PIN among the commands that were sent by a plan, if there is one. -/
def sentPin? (plan : List Step) (sent : List Sent) : Option SentPin :=
  (plan.zip sent).findSome? fun
    | (.changePin new _, x) => some ⟨new, x.answer⟩
    | _ => none

/-- Where nothing was sent, no change of the PIN was. -/
@[simp] theorem sentPin?_nil (plan : List Step) : sentPin? plan [] = none := by
  rw [sentPin?, List.zip_nil_right, List.findSome?_nil]

/-- A change of the PIN is what it was sent as. -/
@[simp] theorem sentPin?_changePin (new old : String) (plan : List Step) (x : Sent)
    (xs : List Sent) : sentPin? (.changePin new old :: plan) (x :: xs) = some ⟨new, x.answer⟩ := rfl

/-- The language is no change of the PIN. -/
@[simp] theorem sentPin?_setLanguage (code : String) (plan : List Step) (x : Sent)
    (xs : List Sent) : sentPin? (.setLanguage code :: plan) (x :: xs) = sentPin? plan xs := rfl

/-- Nor is the tutorial. -/
@[simp] theorem sentPin?_closeTutorial (xs : List Sent) : sentPin? [.closeTutorial] xs = none := by
  cases xs <;> rfl

/-! ## What follows from its answer -/

/-- What a change of the PIN makes of the preferences. -/
def Preferences.adopting (account : String) (change : Option SentPin) (p : Preferences) :
    Preferences :=
  match change.bind SentPin.adopted? with
  | some new => p.setOldPin account (some new)
  | none => p

/-- The PIN and the events that tell of it follow the answer to a change of the PIN. -/
structure FollowsPin (account : String) (change : Option SentPin) (before after : Preferences)
    (reports : List String) : Prop where
  /-- A new PIN is stored exactly if it was accepted, and nothing else is. -/
  preferences : after = before.adopting account change
  /-- An accepted change is reported, once; -/
  replaced : reports.count EventKind.defaultPinReplaced.name =
    if (change.bind SentPin.adopted?).isSome then 1 else 0
  /-- so is one that was rejected. -/
  rejected : reports.count EventKind.pinChangeRejected.name =
    if change.any SentPin.isRejected then 1 else 0

namespace FollowsPin

variable {account : String} {change : Option SentPin} {before after : Preferences}
  {reports : List String}

/-- A change that is accepted is stored and reported. -/
theorem of_accepted {response : String} (ha : isAccepted response = true) (account new : String)
    (before : Preferences) :
    FollowsPin account (some ⟨new, .ok response⟩) before (before.setOldPin account (some new))
      [EventKind.defaultPinReplaced.name] := by
  have hadopted : SentPin.adopted? ⟨new, .ok response⟩ = some new := if_pos ha
  have hrejected : SentPin.isRejected ⟨new, .ok response⟩ = false := by
    simp [SentPin.isRejected, accepts, ha]
  refine ⟨?_, ?_, ?_⟩
  · rw [Preferences.adopting, Option.bind_some, hadopted]
  · rw [Option.bind_some, hadopted]
    rfl
  · rw [Option.any_some, hrejected]
    rfl

/-- A change that is rejected is reported only. -/
theorem of_rejected {response : String} (ha : isAccepted response = false) (account new : String)
    (before : Preferences) :
    FollowsPin account (some ⟨new, .ok response⟩) before before
      [EventKind.pinChangeRejected.name] := by
  have hadopted : SentPin.adopted? ⟨new, .ok response⟩ = none := by
    simp [SentPin.adopted?, accepts, ha]
  have hrejected : SentPin.isRejected ⟨new, .ok response⟩ = true := by
    simp [SentPin.isRejected, accepts, ha, Except.isOk, Except.toBool]
  refine ⟨?_, ?_, ?_⟩
  · rw [Preferences.adopting, Option.bind_some, hadopted]
  · rw [Option.bind_some, hadopted]
    rfl
  · rw [Option.any_some, hrejected]
    rfl

/-- The stored PIN is the one that was accepted, or else the one before. -/
theorem oldPin? (h : FollowsPin account change before after reports) :
    after.oldPin? account = (change.bind SentPin.adopted?).or (before.oldPin? account) := by
  rw [h.preferences, Preferences.adopting]
  cases change.bind SentPin.adopted? with
  | none => rfl
  | some new => simp [Preferences.oldPin?_setOldPin]

end FollowsPin

namespace Bootstrap

variable {p : Platform} {b : Bootstrap} {identifier : String} {spanish pinSet : Bool}
  {c c' : Client} {calls : List Call} {reports : List String} {r : Except Failure Bool}

/-! ## The commands -/

/-- The PIN step follows the change that it sent, whatever is sent after it. -/
theorem PinStep.followsPin (h : PinStep p b identifier pinSet c calls reports r c')
    (later : List Sent) (hlater : r = .ok true ∨ later = []) :
    FollowsPin b.account
      (sentPin? (pinPlan identifier pinSet (b.drawnPin c))
        (p.sent c.transcript.calls calls ++ later))
      c.preferences c'.preferences reports := by
  cases h with
  | kept set after =>
    rw [pinPlan_kept set, sentPin?_closeTutorial]
    exact ⟨after.preferences, rfl, rfl⟩
  | underivable set derived after =>
    rw [pinPlan_underivable set derived]
    exact ⟨after.preferences, rfl, rfl⟩
  | unanswered set derived reply after =>
    obtain rfl : later = [] := hlater.resolve_left (by simp)
    rw [pinPlan_derived set derived, List.append_nil]
    obtain hsent | ⟨text, f, hsent⟩ := reply.sent_of_error
    · rw [hsent, sentPin?_nil]
      exact ⟨after.preferences, rfl, rfl⟩
    · rw [hsent, sentPin?_changePin]
      exact ⟨after.preferences, rfl, rfl⟩
  | rejected set derived reply refusal after =>
    obtain ⟨text, -, hsent⟩ := reply.sent_of_ok
    rw [pinPlan_derived set derived, hsent, List.singleton_append, sentPin?_changePin,
      after.preferences]
    exact .of_rejected refusal ..
  | replaced set derived reply acceptance after =>
    obtain ⟨text, -, hsent⟩ := reply.sent_of_ok
    rw [pinPlan_derived set derived, hsent, List.singleton_append, sentPin?_changePin,
      after.preferences]
    exact .of_accepted acceptance ..

/-- So do the commands of the setup: neither the language nor the tutorial has a part in it. -/
theorem Commands.followsPin (h : Commands p b identifier spanish pinSet c calls reports r c') :
    FollowsPin b.account
      (sentPin? (b.plan identifier spanish pinSet (b.drawnPin c))
        (p.sent c.transcript.calls calls))
      c.preferences c'.preferences reports := by
  cases h with
  | language language judged after =>
    have hnone : sentPin? (b.plan identifier spanish pinSet (b.drawnPin c))
        (p.sent c.transcript.calls calls) = none := by
      obtain ⟨hsent, -⟩ | ⟨text, -, hsent, -⟩ := language.sent_cases
      · rw [hsent, sentPin?_nil]
      · rw [hsent, plan, sentPin?_setLanguage, sentPin?_nil]
    rw [hnone]
    exact ⟨after.preferences, rfl, rfl⟩
  | stopped language acceptance after pin ends =>
    obtain ⟨text, -, hsent⟩ := language.sent_of_ok
    have hpin := pin.followsPin [] (.inr rfl)
    rw [drawnPin_after after, after.calls, after.preferences, List.append_nil] at hpin
    rw [Platform.sent_append, hsent, plan, List.singleton_append, sentPin?_setLanguage]
    exact hpin
  | @tutorial _ more last _ _ _ c₁ c₂ _ language acceptance after pin tutorial afterwards =>
    obtain ⟨text, -, hsent⟩ := language.sent_of_ok
    have hcalls : c₂.transcript.calls = c₁.transcript.calls ++ more := pin.follows.calls
    have hpin := pin.followsPin (p.sent c₂.transcript.calls last) (.inl rfl)
    rw [hcalls, drawnPin_after after, after.calls, after.preferences, List.append_assoc] at hpin
    rw [Platform.sent_append, Platform.sent_append, hsent, plan, afterwards.preferences,
      List.append_assoc, List.singleton_append, sentPin?_setLanguage]
    exact hpin

/-! ## The setup -/

/-- So does a session, however it goes after the commands. -/
theorem Session.followsPin (h : Session p b identifier spanish pinSet c calls reports r c') :
    FollowsPin b.account
      (sentPin? (b.plan identifier spanish pinSet (b.drawnPin c))
        (p.sent c.transcript.calls calls))
      c.preferences c'.preferences reports := by
  cases h with
  | refused _ after | noNetwork _ _ after | notOpened _ _ _ after =>
    rw [Platform.sent_eq_nil (by simp), sentPin?_nil]
    exact ⟨after.preferences, rfl, rfl⟩
  | @worked _ _ _ _ _ c₁ _ _ _ _ _ before work after =>
    have hpin := work.2.followsPin
    have hdrawn : b.drawnPin c₁ = b.drawnPin c := (drawnPin_after before :)
    rw [before.calls, before.preferences, hdrawn] at hpin
    rw [sent_worked, after.preferences]
    exact hpin

/-- How a setup ends after its session is not told by an event about the PIN. -/
theorem Ending.followsPin {change : Option SentPin} {before after : Preferences}
    {more : List String} {r' : Except Failure Outcome} (he : Ending r more r')
    (h : FollowsPin b.account change before after reports) :
    FollowsPin b.account change before after (reports ++ more) := by
  have hcount (name : String) (hname : name ≠ EventKind.newUserSetupFailed.name) :
      (reports ++ more).count name = reports.count name := by
    cases he with
    | confirmed | unconfirmed | ended | failed => rw [List.append_nil]
    | unavailable =>
      rw [List.count_append, List.count_singleton, if_neg (by simpa using hname.symm),
        Nat.add_zero]
  refine ⟨h.preferences, ?_, ?_⟩
  · rw [hcount _ (by decide)]
    exact h.replaced
  · rw [hcount _ (by decide)]
    exact h.rejected

/-- What calls and reports of a setup with a plan are to the PIN of an account. -/
structure TracksPin (p : Platform) (table : CommandTable) (account : String) (plan : List Step)
    (past calls : List Call) (reports : List String) (before after : Preferences) : Prop where
  /-- The commands among the calls are the first ones of the plan. -/
  inOrder : InOrder table plan (p.sent past calls)
  /-- The PIN afterwards is the new one if the server accepted it, else the one before. -/
  oldPin? : after.oldPin? account =
    ((sentPin? plan (p.sent past calls)).bind SentPin.adopted?).or (before.oldPin? account)
  /-- The preferences and the reports follow the answer to the change of the PIN. -/
  follows : FollowsPin account (sentPin? plan (p.sent past calls)) before after reports

/-- Whatever the platform does, and whatever comes of the setup, the stored PIN and the events that
tell of it follow the answer to the change of the PIN. -/
theorem run_tracksPin (p : Platform) (b : Bootstrap) (identifier : String)
    (spanish pinSet : Bool) (c : Client) (hr : b.reporter.IsQuiet)
    (hs : b.requestStatus = perform p .requestStatus) :
    ∃ calls reports,
      (run p b identifier spanish pinSet c).2.transcript.calls = c.transcript.calls ++ calls ∧
      (run p b identifier spanish pinSet c).2.transcript.reports =
        c.transcript.reports ++ reports ∧
      TracksPin p b.protocol.commands b.account
        (b.plan identifier spanish pinSet (b.drawnPin c)) c.transcript.calls calls reports
        c.preferences (run p b identifier spanish pinSet c).2.preferences := by
  obtain ⟨calls, reports, r, c₁, hsession, h⟩ :=
    runSession_visit p identifier spanish pinSet c hr
  have hcalls : c₁.transcript.calls = c.transcript.calls ++ calls := h.follows.calls
  have hreports : c₁.transcript.reports = c.transcript.reports ++ reports := h.follows.reports
  obtain ⟨asked, more, hafter, hending, hasked⟩ := run_asking hr hs hsession
  have hsent : p.sent c.transcript.calls (calls ++ asked) = p.sent c.transcript.calls calls :=
    sent_asked hasked
  have hpin := hending.followsPin h.followsPin
  rw [← hsent, ← hafter.preferences] at hpin
  refine ⟨calls ++ asked, reports ++ more, ?_, ?_, ?_, hpin.oldPin?, hpin⟩
  · rw [hafter.calls, hcalls, List.append_assoc]
  · rw [hafter.reports, hreports, List.append_assoc]
  · rw [hsent]
    exact h.planned.1

/-- The PIN after a setup on a platform on which everything succeeds. -/
theorem run_tracksPin_obliging :
    ∃ calls reports,
      (run .obliging (forAccount "a") "2065551234@x" false false
        (.new { root := ⟨.root, []⟩, configPath := none } none [1234567890])).2.transcript.calls =
          [] ++ calls ∧
      (run .obliging (forAccount "a") "2065551234@x" false false
        (.new { root := ⟨.root, []⟩, configPath := none } none [1234567890])).2.transcript.reports =
          [] ++ reports ∧
      TracksPin .obliging Protocol.vvm3.commands "a"
        [.setLanguage "5", .changePin "123456" "11234", .closeTutorial] [] calls reports .empty
        (run .obliging (forAccount "a") "2065551234@x" false false
          (.new { root := ⟨.root, []⟩, configPath := none } none [1234567890])).2.preferences :=
  run_tracksPin .obliging (forAccount "a") "2065551234@x" false false _
    (Reporter.toBus_isQuiet .vvm3 "a") rfl

end Bootstrap

end Voicemail
