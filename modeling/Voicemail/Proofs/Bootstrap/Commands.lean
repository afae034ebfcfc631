import Voicemail.Bootstrap
import Voicemail.Proofs.Session.Reply

/-!
# The commands of the setup

How the commands of the setup of a mailbox go (`Bootstrap.Commands`): the language is set, then the
PIN step is taken (`Bootstrap.PinStep`), then the tutorial is closed, and the first that stops is
the last. Each constructor says which calls and reports were made, what the server said to each
command, and what became of the client. The preferences change in one place only, where a change of
the PIN was accepted.
-/

namespace Voicemail

namespace Bootstrap

open Client

variable {p : Platform} {b : Bootstrap} {identifier : String} {spanish pinSet : Bool} {c : Client}

/-! ## The PIN step -/

/-- The PIN that a client draws for a mailbox. -/
def drawnPin (b : Bootstrap) (c : Client) : String :=
  Pin.ofDraw
    (Pin.clampLength (Pin.minimumLength (c.preferences.get? b.account StatusResponse.pinLengthField)
      b.defaultPinLength))
    (c.draws.headD 0)

/-- The parameters of the command that replaces an old PIN by the drawn one. -/
def pinParams (b : Bootstrap) (old : String) (c : Client) : List (String × Json) :=
  [("new_pin", .str (b.drawnPin c)), ("old_pin", .str old)]

/-- A new PIN is drawn, whatever the policy says of its length. -/
theorem newPin_apply (b : Bootstrap) (c : Client) :
    b.newPin c = (.ok (b.drawnPin c), { c with draws := c.draws.tail }) := by
  rw [newPin, bind_ok (get_apply c), drawPin_of_isLength (Pin.isLength_clampLength _)]
  rfl

/-- How the PIN step goes: its calls and reports, whether the setup goes on, and the client
afterwards. -/
inductive PinStep (p : Platform) (b : Bootstrap) (identifier : String) (pinSet : Bool)
    (c : Client) : List Call → List String → Except Failure Bool → Client → Prop
  /-- There is a PIN from an earlier run. -/
  | kept {c' : Client} (set : pinSet = true) (after : After c [] [] c') :
      PinStep p b identifier pinSet c [] [] (.ok true) c'
  /-- The identifier has no default PIN. -/
  | underivable {c' : Client} (set : pinSet = false) (derived : Pin.derive? identifier = none)
      (after : After c [] [EventKind.newUserSetupFailed.name] c') :
      PinStep p b identifier pinSet c [] [EventKind.newUserSetupFailed.name] (.ok false) c'
  /-- The server does not respond to the change. -/
  | unanswered {old : String} {calls : List Call} {e : Failure} {c' : Client}
      (set : pinSet = false) (derived : Pin.derive? identifier = some old)
      (reply : Reply p b.protocol.commands .changeTuiPassword (b.pinParams old c)
        c.transcript.calls calls (.error e))
      (after : After { c with draws := c.draws.tail } calls [] c') :
      PinStep p b identifier pinSet c calls [] (.error e) c'
  /-- The server rejects the change. -/
  | rejected {old response : String} {calls : List Call} {c' : Client}
      (set : pinSet = false) (derived : Pin.derive? identifier = some old)
      (reply : Reply p b.protocol.commands .changeTuiPassword (b.pinParams old c)
        c.transcript.calls calls (.ok response))
      (refusal : isAccepted response = false)
      (after : After { c with draws := c.draws.tail } calls [EventKind.pinChangeRejected.name] c') :
      PinStep p b identifier pinSet c calls [EventKind.pinChangeRejected.name] (.ok true) c'
  /-- The server accepts the change, and the new PIN is stored. -/
  | replaced {old response : String} {calls : List Call} {c' : Client}
      (set : pinSet = false) (derived : Pin.derive? identifier = some old)
      (reply : Reply p b.protocol.commands .changeTuiPassword (b.pinParams old c)
        c.transcript.calls calls (.ok response))
      (acceptance : isAccepted response = true)
      (after : After { c with
          draws := c.draws.tail
          preferences := c.preferences.setOldPin b.account (some (b.drawnPin c)) }
        calls [EventKind.defaultPinReplaced.name] c') :
      PinStep p b identifier pinSet c calls [EventKind.defaultPinReplaced.name] (.ok true) c'

namespace PinStep

variable {calls : List Call} {reports : List String} {r : Except Failure Bool} {c' : Client}

/-- The step changes nothing but draws and preferences. -/
theorem follows (h : PinStep p b identifier pinSet c calls reports r c') :
    Follows c calls reports c' := by
  cases h with
  | kept _ after => exact after.follows
  | underivable _ _ after => exact after.follows
  | unanswered _ _ _ after => exact after.follows_of
  | rejected _ _ _ _ after => exact after.follows_of
  | replaced _ _ _ _ after => exact after.follows_of

/-- The step takes no call but the change of the PIN. -/
theorem calls_execute (h : PinStep p b identifier pinSet c calls reports r c') :
    ∃ texts : List String, calls = texts.map .execute := by
  cases h with
  | kept | underivable => exact ⟨[], rfl⟩
  | unanswered _ _ reply _ => exact reply.calls_execute
  | rejected _ _ reply _ _ => exact reply.calls_execute
  | replaced _ _ reply _ _ => exact reply.calls_execute

end PinStep

/-- A drawn PIN that replaces the default one, or what stands in its way. -/
theorem replaceDefaultPin_step (p : Platform) (identifier : String)
    (h : c.session = some b.protocol.commands) (hr : b.reporter.IsQuiet) :
    ∃ calls reports r c', replaceDefaultPin p b identifier c = (r, c') ∧
      PinStep p b identifier false c calls reports r c' := by
  unfold replaceDefaultPin
  cases derived : Pin.derive? identifier with
  | none =>
    obtain ⟨c₁, hlog, hafter₁⟩ := After.log .bootstrap (by decide) .error
      "new_user.default_pin_not_derivable" [] c
    obtain ⟨c₂, hreport, hafter₂⟩ := hr.report .newUserSetupFailed c₁
    refine ⟨_, _, _, c₂, ?_, .underivable rfl derived (hafter₁.after_quiet hafter₂)⟩
    simp only
    rw [bind_ok hlog, bind_ok hreport]
    rfl
  | some old =>
    simp only
    rw [bind_ok (newPin_apply b c)]
    obtain ⟨calls, reply, c₁, hpin, hreply, hafter₁⟩ :=
      changePin_reply (p := p) (c := { c with draws := c.draws.tail }) h (b.drawnPin c) old
    cases reply with
    | error e =>
      exact ⟨calls, [], _, c₁, bind_error hpin, .unanswered rfl derived hreply hafter₁⟩
    | ok response =>
      rw [bind_ok hpin]
      cases ha : isAccepted response with
      | false =>
        have hverdict : pinVerdict response = .failure := by simp [pinVerdict, ha]
        obtain ⟨c₂, hlog, hafter₂⟩ := After.log .bootstrap (by decide) .warning
          "new_user.pin_change_rejected" [] c₁
        obtain ⟨c₃, hreport, hafter₃⟩ := hr.report .pinChangeRejected c₂
        refine ⟨calls, _, _, c₃, ?_, .rejected rfl derived hreply ha ?_⟩
        · simp only [hverdict]
          rw [bind_ok hlog, bind_ok hreport]
          rfl
        · simpa using (hafter₁.quietly hafter₂).trans hafter₃
      | true =>
        have hverdict : pinVerdict response = .success := by simp [pinVerdict, ha]
        obtain ⟨c₂, hset, hafter₂⟩ := After.setOldPin b.account (b.drawnPin c) c₁
        obtain ⟨c₃, hreport, hafter₃⟩ := hr.report .defaultPinReplaced c₂
        obtain ⟨c₄, hlog, hafter₄⟩ := After.log .bootstrap (by decide) .info
          "new_user.pin_set" [] c₃
        refine ⟨calls, _, _, c₄, ?_, .replaced rfl derived hreply ha ?_⟩
        · simp only [hverdict]
          rw [bind_ok hset, bind_ok hreport, bind_ok hlog]
          rfl
        · have hpin := (hafter₁.storing _).trans (hafter₂.trans (hafter₃.quietly hafter₄))
          rw [hafter₁.preferences] at hpin
          simpa using hpin

/-- The PIN step, with a PIN from an earlier run or without, and what comes after it. -/
theorem pinStep (p : Platform) (identifier : String) (pinSet : Bool)
    (h : c.session = some b.protocol.commands) (hr : b.reporter.IsQuiet) :
    ∃ calls reports r c', PinStep p b identifier pinSet c calls reports r c' ∧
      ∀ next : Bool → ClientM Bool,
        (if pinSet then do
            Client.log .bootstrap .info "new_user.pin_already_set" []
            let goOn ← pure true
            next goOn
          else do
            let goOn ← replaceDefaultPin p b identifier
            next goOn) c =
          match r with
          | .ok goOn => next goOn c'
          | .error e => (.error e, c') := by
  cases pinSet with
  | true =>
    obtain ⟨c₁, hlog, hafter⟩ := After.log .bootstrap (by decide) .info
      "new_user.pin_already_set" [] c
    exact ⟨_, _, _, c₁, .kept rfl hafter, fun next => bind_ok hlog⟩
  | false =>
    obtain ⟨calls, reports, r, c₁, hrun, hstep⟩ := replaceDefaultPin_step p identifier h hr
    refine ⟨calls, reports, r, c₁, hstep, fun next => ?_⟩
    simp only [Bool.false_eq_true, if_false]
    rw [bind_apply, hrun]
    cases r <;> rfl

/-! ## The commands -/

/-- The parameters of the command that sets the language. -/
def languageParams (b : Bootstrap) (spanish : Bool) : List (String × Json) :=
  [("language", .str (b.protocol.languageCode spanish))]

/-- How the commands of the setup go: their calls and reports, whether they were carried through,
and the client afterwards. -/
inductive Commands (p : Platform) (b : Bootstrap) (identifier : String) (spanish pinSet : Bool)
    (c : Client) : List Call → List String → Except Failure Bool → Client → Prop
  /-- The language is not set. -/
  | language {calls : List Call} {reply : Except Failure String} {e : Failure} {c' : Client}
      (language : Reply p b.protocol.commands .changeLanguage (b.languageParams spanish)
        c.transcript.calls calls reply)
      (judged : verdict .languageRejected reply = .error e) (after : After c calls [] c') :
      Commands p b identifier spanish pinSet c calls [] (.error e) c'
  /-- The PIN step ends the setup. -/
  | stopped {calls more : List Call} {reports : List String} {response : String}
      {r : Except Failure Bool} {c₁ c' : Client}
      (language : Reply p b.protocol.commands .changeLanguage (b.languageParams spanish)
        c.transcript.calls calls (.ok response))
      (acceptance : isAccepted response = true) (after : After c calls [] c₁)
      (pin : PinStep p b identifier pinSet c₁ more reports r c') (ends : r ≠ .ok true) :
      Commands p b identifier spanish pinSet c (calls ++ more) reports r c'
  /-- The tutorial is reached. -/
  | tutorial {calls more last : List Call} {reports : List String} {response : String}
      {reply : Except Failure String} {c₁ c₂ c' : Client}
      (language : Reply p b.protocol.commands .changeLanguage (b.languageParams spanish)
        c.transcript.calls calls (.ok response))
      (acceptance : isAccepted response = true) (after : After c calls [] c₁)
      (pin : PinStep p b identifier pinSet c₁ more reports (.ok true) c₂)
      (tutorial : Reply p b.protocol.commands .closeNewUserTutorial []
        c₂.transcript.calls last reply)
      (afterwards : After c₂ last [] c') :
      Commands p b identifier spanish pinSet c (calls ++ more ++ last) reports
        ((verdict .tutorialRejected reply).map fun _ => true) c'

namespace Commands

variable {calls : List Call} {reports : List String} {r : Except Failure Bool} {c' : Client}

/-- The commands change nothing but draws and preferences. -/
theorem follows (h : Commands p b identifier spanish pinSet c calls reports r c') :
    Follows c calls reports c' := by
  cases h with
  | language _ _ after => exact after.follows
  | stopped _ _ after pin _ => exact after.follows.trans pin.follows
  | tutorial _ _ after pin _ afterwards =>
    simpa using (after.follows.trans pin.follows).trans afterwards.follows

/-- All calls are commands of the session. -/
theorem calls_execute (h : Commands p b identifier spanish pinSet c calls reports r c') :
    ∃ texts : List String, calls = texts.map .execute := by
  cases h with
  | language language _ _ => exact language.calls_execute
  | stopped language _ _ pin _ =>
    obtain ⟨xs, rfl⟩ := language.calls_execute
    obtain ⟨ys, rfl⟩ := pin.calls_execute
    exact ⟨xs ++ ys, List.map_append.symm⟩
  | tutorial language _ _ pin tutorial _ =>
    obtain ⟨xs, rfl⟩ := language.calls_execute
    obtain ⟨ys, rfl⟩ := pin.calls_execute
    obtain ⟨zs, rfl⟩ := tutorial.calls_execute
    exact ⟨xs ++ ys ++ zs, by simp⟩

end Commands

/-- In an open session the commands of the setup go one of these ways. -/
theorem runCommands_commands (p : Platform) (identifier : String) (spanish pinSet : Bool)
    (h : c.session = some b.protocol.commands) (hr : b.reporter.IsQuiet) :
    ∃ calls reports r c', runCommands p b identifier spanish pinSet c = (r, c') ∧
      Commands p b identifier spanish pinSet c calls reports r c' := by
  obtain ⟨calls, reply, c₁, hlanguage, hreply, hafter₁⟩ :=
    setLanguage_reply (p := p) h (b.protocol.languageCode spanish)
  change Reply p b.protocol.commands .changeLanguage (b.languageParams spanish) _ _ _ at hreply
  unfold runCommands
  cases hv : verdict .languageRejected reply with
  | error e =>
    rw [hv] at hlanguage
    exact ⟨calls, [], _, c₁, bind_error hlanguage, .language hreply hv hafter₁⟩
  | ok =>
    rw [hv] at hlanguage
    obtain ⟨response, rfl, ha⟩ := verdict_ok hv
    obtain ⟨c₂, hlog, hafter₂⟩ := After.log .bootstrap (by decide) .info
      "new_user.language_set" [("spanish", .bool spanish)] c₁
    have hafter := hafter₁.quietly hafter₂
    obtain ⟨more, reports, r, c₃, hstep, hpin⟩ :=
      pinStep p identifier pinSet (hafter.session.trans h) hr
    rw [bind_ok hlanguage, bind_ok hlog]
    simp only [hpin]
    have hsession : c₃.session = some b.protocol.commands :=
      hstep.follows.session.trans (hafter.session.trans h)
    match r, hstep with
    | .error e, hstep => exact ⟨_, _, _, c₃, rfl, .stopped hreply ha hafter hstep (by simp)⟩
    | .ok false, hstep => exact ⟨_, _, _, c₃, rfl, .stopped hreply ha hafter hstep (by simp)⟩
    | .ok true, hstep =>
      obtain ⟨last, reply, c₄, htutorial, hlast, hafter₄⟩ := closeTutorial_reply (p := p) hsession
      cases hv : verdict .tutorialRejected reply with
      | error e =>
        rw [hv] at htutorial
        have := Commands.tutorial hreply ha hafter hstep hlast hafter₄
        rw [hv] at this
        exact ⟨_, _, _, c₄, bind_error htutorial, this⟩
      | ok =>
        rw [hv] at htutorial
        obtain ⟨c₅, hlog₅, hafter₅⟩ := After.log .bootstrap (by decide) .info
          "new_user.tutorial_closed" [] c₄
        have := Commands.tutorial hreply ha hafter hstep hlast (hafter₄.quietly hafter₅)
        rw [hv] at this
        exact ⟨_, _, _, c₅, (bind_ok htutorial).trans (bind_ok hlog₅), this⟩

end Bootstrap

end Voicemail
