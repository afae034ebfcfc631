import Voicemail.Proofs.Bootstrap.Setup
import Voicemail.Provisioning

/-!
# Courses of an attempt

An attempt routes a status and carries out its action, with the tags of the account bound. What it
does beside the action leaves no call, no report and no preference (`Attempt.provision_carryOut`).
The setup of a new user stores the fields of the status first and then takes its course
(`Attempt.setUpNewUser_course`); a failure of the session or of input and output is reported
(`Attempt.Handling`).
-/

namespace Voicemail.Attempt

open Client

variable {p : Platform} {a : Attempt} {s : StatusResponse} {c : Client}

/-! ## Setting up a new user -/

/-- A failure that the setup of a new user turns into an outcome. -/
def isHandled (e : Failure) : Bool := e.isSession || e.isIo

/-- What becomes of what a setup gives: the reports that are added, and the outcome. -/
inductive Handling : Except Failure Outcome → List String → Except Failure Outcome → Prop
  | outcome (o : Outcome) : Handling (.ok o) [] (.ok o)
  | handled {e : Failure} (he : isHandled e = true) :
      Handling (.error e) [EventKind.newUserSetupFailed.name] (.ok .newUserSetupFailed)
  | passed {e : Failure} (he : isHandled e = false) : Handling (.error e) [] (.error e)

/-- What an attempt makes of what a setup gives. -/
def handle (a : Attempt) : Except Failure Outcome → ClientM Outcome
  | .ok outcome => return outcome
  | .error e =>
    if isHandled e then do
      Client.log .provisioning .error "new_user.setup_failed" [("error", .str e.message)]
      (Reporter.toBus a.protocol a.account).report .newUserSetupFailed
      return .newUserSetupFailed
    else throw e

/-- Handling makes no call, and reports what it turns into an outcome. -/
theorem handle_handling (a : Attempt) (r : Except Failure Outcome) (c : Client) :
    ∃ r' reports c', a.handle r c = (r', c') ∧ After c [] reports c' ∧ Handling r reports r' := by
  cases r with
  | ok o => exact ⟨_, [], c, rfl, .refl c, .outcome o⟩
  | error e =>
    cases he : isHandled e with
    | true =>
      obtain ⟨c₁, hlog, hafter₁⟩ := After.log .provisioning (by decide) .error
        "new_user.setup_failed" [("error", .str e.message)] c
      obtain ⟨c₂, hreport, hafter₂⟩ :=
        (Reporter.toBus_isQuiet a.protocol a.account).report .newUserSetupFailed c₁
      refine ⟨_, _, c₂, ?_, hafter₁.after_quiet hafter₂, .handled he⟩
      simp only [handle, he, if_true]
      rw [bind_ok hlog, bind_ok hreport]
      rfl
    | false =>
      refine ⟨_, [], c, ?_, .refl c, .passed he⟩
      simp only [handle, he]
      rfl

/-- The client on which the setup of a new user runs: the fields of the status are stored. -/
def storing (a : Attempt) (s : StatusResponse) (c : Client) : Client :=
  { c with preferences := c.preferences.putStatus a.account s.rawFields }

/-- Whether a new user is set up in Spanish. -/
def isSpanish (a : Attempt) (c : Client) : Bool := isSpanishLocale (a.effectiveLocale c)

/-- Whether a PIN counts as set by an earlier run, once the fields of the status are stored. -/
def isPinSet (a : Attempt) (s : StatusResponse) (c : Client) : Bool :=
  (a.storing s c).preferences.hasOldPin a.account

/-- Whether calls send no command. -/
def SendsNone (calls : List Call) : Prop := ∀ text, .execute text ∉ calls

/-- The request for the status makes at most a call of the message sender. -/
theorem bootstrap_asksBy (p : Platform) (a : Attempt) (settings : ProvisioningSettings) :
    (a.bootstrap p settings).AsksBy SendsNone := by
  intro c
  show ∃ r calls c', a.send p .status c = (r, c') ∧ SendsNone calls ∧ After c calls [] c'
  unfold send
  split
  · obtain ⟨c', h, hafter⟩ := After.perform p (.sendMessage c.settings.sms.destinationNumber
      c.settings.sms.applicationPort Request.status.text) c
    exact ⟨_, _, c', by rw [bind_ok (get_apply c), h], by simp [SendsNone], hafter⟩
  · exact ⟨_, [], c, rfl, by simp [SendsNone], .refl c⟩

/-- How the setup of a new user goes: a session of the setup, its ending, and what becomes of
that. -/
inductive Course (p : Platform) (a : Attempt) (s : StatusResponse) (c : Client) :
    List Call → List String → Except Failure Outcome → Client → Prop
  | intro {c₀ c₁ c' : Client} {calls more : List Call} {reports reports' reports'' : List String}
      {r : Except Failure Bool} {r' r'' : Except Failure Outcome}
      (before : After (a.storing s c) [] [] c₀)
      (session : (a.bootstrap p c.settings.provisioning).Session p s.subscriberIdentifier
        (a.isSpanish c) (a.isPinSet s c) c₀ calls reports r c₁)
      (ending : Bootstrap.Ending r reports' r') (handling : Handling r' reports'' r'')
      (after : After c₁ more (reports' ++ reports'') c') (asked : SendsNone more) :
      Course p a s c (calls ++ more) (reports ++ (reports' ++ reports'')) r'' c'

/-- The setup of a new user is a setup of a mailbox on which the fields of the status are stored,
and the handling of what it gives. -/
theorem setUpNewUser_handle {c₀ c₁ : Client} {r : Except Failure Outcome}
    (hput : putStatus a.account s.rawFields c = (.ok (), c₀))
    (hafter : After (a.storing s c) [] [] c₀)
    (hrun : (a.bootstrap p c.settings.provisioning).run p s.subscriberIdentifier (a.isSpanish c)
      (a.isPinSet s c) c₀ = (r, c₁)) :
    a.setUpNewUser p s c = a.handle r c₁ := by
  have hsettings : c₀.settings = c.settings := hafter.settings
  have hspanish : isSpanishLocale (a.effectiveLocale c₀) = a.isSpanish c := by
    simp only [isSpanish, effectiveLocale, hsettings, hafter.systemLocale]
    rfl
  have hpin : c₀.preferences.hasOldPin a.account = a.isPinSet s c := by
    rw [hafter.preferences, isPinSet]
  rw [setUpNewUser, bind_ok hput, bind_ok (get_apply c₀)]
  simp only [hsettings, hspanish, hpin]
  rw [bind_ok (attempt_apply _ c₀), hrun]
  cases r <;> rfl

/-- The setup of a new user takes such a course. -/
theorem setUpNewUser_course (p : Platform) (a : Attempt) (s : StatusResponse) (c : Client) :
    ∃ calls reports r c', a.setUpNewUser p s c = (r, c') ∧ Course p a s c calls reports r c' := by
  obtain ⟨c₀, hput, hbefore⟩ :=
    After.putPreferences a.account (s.rawFields.map fun field => (field.1, some field.2)) c
  change After (a.storing s c) [] [] c₀ at hbefore
  obtain ⟨calls, reports, r, c₁, hsession, r', more, reports', c₂, hrun, hafter, hending, hmore⟩ :=
    Bootstrap.run_ending p s.subscriberIdentifier (a.isSpanish c) (a.isPinSet s c) c₀
      (bootstrap_asksBy p a c.settings.provisioning) (Reporter.toBus_isQuiet a.protocol a.account)
  obtain ⟨r'', reports'', c₃, hhandle, hafter', hhandling⟩ := a.handle_handling r' c₂
  have hasked : SendsNone (more ++ []) := by
    obtain ⟨-, hasked⟩ | ⟨-, rfl⟩ := hmore
    · rwa [List.append_nil]
    · simp [SendsNone]
  refine ⟨_, _, r'', c₃, ?_,
    .intro hbefore hsession hending hhandling (hafter.trans hafter') hasked⟩
  rw [setUpNewUser_handle hput hbefore hrun, hhandle]

/-- A course changes nothing but draws and preferences, and whether a session is open. -/
theorem Course.follows {c' : Client} {calls : List Call} {reports : List String}
    {r : Except Failure Outcome} (h : Course p a s c calls reports r c') :
    Follows { c with session := c'.session } calls reports c' := by
  cases h with
  | @intro _ c₁ _ _ _ _ _ _ _ _ _ before session ending handling after asked =>
    have hstoring : Follows c [] [] _ := before.follows
    rw [after.session]
    simpa using ((hstoring.withSession c₁.session).trans session.follows).trans after.follows

/-! ## Provisioning -/

/-- The attempt to provision an account whose locale is not known. -/
def forAccount (account : String) : Attempt := ⟨account, .vvm3, none⟩

/-- Whether an attempt carries out an action for a status. -/
structure Routes (a : Attempt) (s : StatusResponse) (action : Action) : Prop where
  supported : a.protocol.supportsProvisioning = true
  route : a.protocol.router.route s = .ok action

/-- A status has one action at most. -/
theorem Routes.unique {action action' : Action} (h : a.Routes s action) (h' : a.Routes s action') :
    action = action' :=
  Except.ok.inj (h.route.symm.trans h'.route)

/-- The record of a status for which there is no action. -/
def unhandledRecord (s : StatusResponse) (c : Client) : LogRecord :=
  { level := .error, logger := LogSource.provisioning.logger, plain := false
    event := "provision.unhandled_status"
    fields := [("status", .str s.provisioningStatus), ("return_code", .str s.returnCode)]
    context := c.context }

/-- A status for which there is no action is recorded, and ends the attempt with what the router
says of it. -/
theorem provision_unhandled (hs : a.protocol.supportsProvisioning = true) {e : Failure}
    (hroute : a.protocol.router.route s = .error e) (p : Platform) (c : Client) :
    a.provision p s c = (.error e, c.noting [.record
      (unhandledRecord s { c with context := c.context.bind a.account a.protocol.name })]) := by
  let bound : Client := { c with context := c.context.bind a.account a.protocol.name }
  have hrun : a.route p s bound = (.error e, bound.noting [.record (unhandledRecord s bound)]) := by
    rw [route]
    simp only [hroute]
    rw [bind_ok (log_apply ..)]
    rfl
  simp only [provision, hs, if_true]
  rw [within_apply, hrun]
  rfl

/-- An attempt that carries out no action stops, and only writes records, none of them the
reporter's. -/
theorem provision_unrouted_records (h : ∀ action, ¬a.Routes s action) :
    ∃ e entries, a.provision p s c = (.error e, c.noting entries) ∧ entries.IsSilent ∧
      ∀ entry ∈ entries, entry.isRecord = true := by
  cases hs : a.protocol.supportsProvisioning with
  | false =>
    refine ⟨.provisioningUnsupported a.protocol.name, [], ?_, .nil, nofun⟩
    simp only [provision, hs, Client.noting, List.append_nil]
    rfl
  | true =>
    cases hroute : a.protocol.router.route s with
    | ok action => exact absurd ⟨hs, hroute⟩ (h action)
    | error e =>
      have hlogger : (unhandledRecord s
          { c with context := c.context.bind a.account a.protocol.name }).logger ≠
          LogSource.reporting.logger := by
        show LogSource.provisioning.logger ≠ _
        decide
      exact ⟨e, _, provision_unhandled hs hroute p c, .record hlogger,
        by simp [Entry.isRecord, Entry.record?]⟩

/-- An attempt that carries out no action stops, and leaves the client as it is. -/
theorem provision_unrouted (h : ∀ action, ¬a.Routes s action) :
    ∃ e c', a.provision p s c = (.error e, c') ∧ After c [] [] c' := by
  obtain ⟨e, entries, hrun, hsilent, -⟩ := provision_unrouted_records (p := p) (c := c) h
  exact ⟨e, _, hrun, .noting_silent hsilent c⟩

/-- The client after a record of its own attempt. -/
def telling (event : String) (fields : List (String × Json)) (c : Client) : Client :=
  c.noting [.record {
    level := .info, logger := LogSource.provisioning.logger, plain := false, event, fields
    context := c.context }]

/-- The client on which the action of an attempt is carried out: the tags of the account are bound,
and the start of the attempt is recorded. -/
def started (a : Attempt) (s : StatusResponse) (action : Action) (c : Client) : Client :=
  telling "provision.start" [("status", .str s.provisioningStatus), ("action", .str action.name)]
    { c with context := c.context.bind a.account a.protocol.name }

/-- The client at the end of an attempt: an outcome is recorded and dispatched, a failure is not. -/
def finished (a : Attempt) (action : Action) : Except Failure Outcome → Client → Client
  | .error _, c => c
  | .ok outcome, c =>
    (Client.dispatchQuietly Hook.postProvision.name (.obj (a.closing action outcome))
      (some a.account) (telling "provision.done"
        [("action", .str action.name), ("outcome", .str outcome.name)] c)).2

/-- A record of the attempt is neither a call nor a report. -/
theorem after_telling (event : String) (fields : List (String × Json)) (c : Client) :
    After c [] [] (telling event fields c) := by
  refine After.noting_silent (.record ?_) c
  show LogSource.provisioning.logger ≠ _
  decide

/-- The end of an attempt leaves no call and no report. -/
theorem after_finished (a : Attempt) (action : Action) (r : Except Failure Outcome) (c : Client) :
    After c [] [] (a.finished action r c) := by
  cases r with
  | error e => exact .refl c
  | ok outcome =>
    have hdone := after_telling "provision.done"
      [("action", .str action.name), ("outcome", .str outcome.name)] c
    obtain ⟨warnings, c', hdispatch, hafter⟩ := After.dispatchQuietly Hook.postProvision.name
      (.obj (a.closing action outcome)) (some a.account) (telling "provision.done"
        [("action", .str action.name), ("outcome", .str outcome.name)] c)
    rw [finished, hdispatch]
    exact hdone.quietly hafter

/-- An attempt is the carrying out of its action, with the tags of the account bound. -/
theorem provision_apply {action : Action} (h : a.Routes s action) {r : Except Failure Outcome}
    {c₁ : Client} (hcarry : a.carryOut p s action (a.started s action c) = (r, c₁)) :
    a.provision p s c = (r, { a.finished action r c₁ with context := c.context }) := by
  have hroute : a.route p s { c with context := c.context.bind a.account a.protocol.name } =
      (r, a.finished action r c₁) := by
    rw [route]
    simp only [h.route]
    rw [bind_ok (log_apply ..)]
    cases r with
    | error e => exact bind_error hcarry
    | ok outcome =>
      obtain ⟨warnings, c₂, hdispatch, -⟩ := After.dispatchQuietly Hook.postProvision.name
        (.obj (a.closing action outcome)) (some a.account) (telling "provision.done"
          [("action", .str action.name), ("outcome", .str outcome.name)] c₁)
      have hdiscard : (discard (Client.dispatchQuietly Hook.postProvision.name
          (.obj (a.closing action outcome)) (some a.account)) : ClientM Unit)
            (telling "provision.done"
              [("action", .str action.name), ("outcome", .str outcome.name)] c₁) =
          (.ok (), c₂) := by
        rw [discard_apply, hdispatch]
        rfl
      rw [finished, hdispatch]
      exact (bind_ok hcarry).trans ((bind_ok (log_apply ..)).trans (bind_ok hdiscard))
  simp only [provision, h.supported, if_true]
  rw [within_apply, hroute]

/-- An attempt gives what its action gives, and does nothing to the client beside it. -/
theorem provision_carryOut {action : Action} (h : a.Routes s action) (p : Platform) (c : Client) :
    ∃ c₀, After { c with context := c.context.bind a.account a.protocol.name } [] [] c₀ ∧
      ∀ {r c₁}, a.carryOut p s action c₀ = (r, c₁) → ∃ c₂,
        a.provision p s c = (r, { c₂ with context := c.context }) ∧ After c₁ [] [] c₂ :=
  ⟨a.started s action c, after_telling .., fun hcarry =>
    ⟨_, provision_apply h hcarry, a.after_finished action _ _⟩⟩

/-- A course from a client after steps without call and report is one from the client before. -/
theorem Course.after_quiet {c' : Client} {calls : List Call} {reports : List String}
    {r : Except Failure Outcome} {c₀ : Client} (h : After c [] [] c₀)
    (hcourse : Course p a s c₀ calls reports r c') : Course p a s c calls reports r c' := by
  have hspanish : a.isSpanish c₀ = a.isSpanish c := by
    simp only [isSpanish, effectiveLocale, h.settings, h.systemLocale]
  have hpinSet : a.isPinSet s c₀ = a.isPinSet s c := by
    simp only [isPinSet, storing, h.preferences]
  have hstoring : After (a.storing s c) [] [] (a.storing s c₀) := by
    unfold storing
    rw [h.preferences]
    exact h.storing _
  cases hcourse with
  | intro before session ending handling after asked =>
    rw [h.settings, hspanish, hpinSet] at session
    exact .intro (hstoring.quietly before) session ending handling after asked

/-- An attempt that sets up a new user takes such a course, with the tags of the account bound, and
makes the calls and reports of the course. -/
theorem provision_course (h : a.Routes s .provisionNewUser) (p : Platform) (c : Client) :
    ∃ calls reports r c₁ c', a.provision p s c = (r, c') ∧
      Course p a s { c with context := c.context.bind a.account a.protocol.name }
        calls reports r c₁ ∧
      c'.transcript.calls = c.transcript.calls ++ calls ∧
      c'.transcript.reports = c.transcript.reports ++ reports ∧
      c'.preferences = c₁.preferences := by
  obtain ⟨c₀, hbefore, hrun⟩ := provision_carryOut h p c
  obtain ⟨calls, reports, r, c₁, hsetup, hcourse⟩ := setUpNewUser_course p a s c₀
  obtain ⟨c₂, hprovision, hafter⟩ := hrun hsetup
  have hcourse := hcourse.after_quiet hbefore
  refine ⟨calls, reports, r, c₁, _, hprovision, hcourse, ?_, ?_, hafter.preferences⟩
  · exact hafter.calls.trans ((List.append_nil _).trans hcourse.follows.calls)
  · exact hafter.reports.trans ((List.append_nil _).trans hcourse.follows.reports)

/-! ## Other actions -/

/-- The preferences as an action other than the setup of a new user leaves them. -/
def settled (a : Attempt) (action : Action) (preferences : Preferences) : Preferences :=
  if action = .disableService then preferences.setEnabled a.account false else preferences

/-- What gives no outcome of the setup of a new user. -/
def IsOther (r : Except Failure Outcome) : Prop :=
  r ≠ .ok .newUserSetupOk ∧ r ≠ .ok .newUserSetupFailed

/-- A failure is no outcome. -/
theorem IsOther.error (e : Failure) : IsOther (.error e) := ⟨by simp, by simp⟩

/-- The events that an action other than the setup of a new user reports. -/
def plainEvents : Action → List EventKind
  | .reportUnknownSubscriber => [.subscriberUnknown]
  | .reportBlocked => [.subscriberBlocked]
  | .selfProvision | .disableService | .provisionNewUser => []

/-- An action other than the setup of a new user sends no command, changes no preference but one,
reports the one event that it has, and has an outcome of its own. -/
theorem carryOut_other {action : Action} (h : action ≠ .provisionNewUser) (p : Platform)
    (a : Attempt) (s : StatusResponse) (c : Client) :
    ∃ calls r c', a.carryOut p s action c = (r, c') ∧ IsOther r ∧ SendsNone calls ∧
      After { c with preferences := a.settled action c.preferences } calls
        ((plainEvents action).map EventKind.name) c' := by
  have hnone : SendsNone [] := fun text hmem => nomatch hmem
  cases action with
  | provisionNewUser => exact absurd rfl h
  | selfProvision =>
    obtain ⟨c', hcall, hafter⟩ := After.perform p (.subscribe s c.context) c
    have hrun : a.carryOut p s .selfProvision c =
        (do
          Client.perform p (.subscribe s c.context)
          return .subscribed : ClientM Outcome) c := bind_ok (get_apply c)
    cases hanswer : p.respond c.transcript.calls (.subscribe s c.context) with
    | error f =>
      rw [hanswer] at hcall
      exact ⟨_, _, c', hrun.trans (bind_error hcall), .error _, by simp [SendsNone], hafter⟩
    | ok =>
      rw [hanswer] at hcall
      exact ⟨_, .ok .subscribed, c', hrun.trans (bind_ok hcall), ⟨by simp, by simp⟩,
        by simp [SendsNone], hafter⟩
  | disableService =>
    obtain ⟨c', hput, hafter⟩ := After.putPreferences a.account
      [(Preferences.enabledKey, some "false")] c
    exact ⟨_, .ok .disabled, c', bind_ok hput, ⟨by simp, by simp⟩, hnone, hafter⟩
  | reportUnknownSubscriber =>
    obtain ⟨c', hreport, hafter⟩ :=
      (Reporter.toBus_isQuiet a.protocol a.account).report .subscriberUnknown c
    exact ⟨_, .ok .subscriberUnknown, c', bind_ok hreport, ⟨by simp, by simp⟩, hnone, hafter⟩
  | reportBlocked =>
    obtain ⟨c', hreport, hafter⟩ :=
      (Reporter.toBus_isQuiet a.protocol a.account).report .subscriberBlocked c
    exact ⟨_, .ok .blocked, c', bind_ok hreport, ⟨by simp, by simp⟩, hnone, hafter⟩

/-- An attempt with an action other than the setup of a new user sends no command, changes no
preference but one, reports the one event that it has, and has an outcome of its own. -/
theorem provision_settled {action : Action} (hroute : a.Routes s action)
    (h : action ≠ .provisionNewUser) (p : Platform) (c : Client) :
    ∃ calls r c', a.provision p s c = (r, c') ∧ IsOther r ∧ SendsNone calls ∧
      After { c with preferences := a.settled action c.preferences } calls
        ((plainEvents action).map EventKind.name) c' := by
  obtain ⟨c₀, hbefore, hrun⟩ := provision_carryOut hroute p c
  obtain ⟨calls, r, c₁, hcarry, hother, hnone, hafter₁⟩ := carryOut_other h p a s c₀
  obtain ⟨c₂, hprovision, hafter₂⟩ := hrun hcarry
  have hall := (hbefore.storing (a.settled action c₀.preferences)).after_quiet
    (hafter₁.quietly hafter₂)
  rw [hbefore.preferences] at hall
  have hafter := After.withContext
    (c := { c with preferences := a.settled action c.preferences }) hall c.context
  exact ⟨calls, r, _, hprovision, hother, hnone, hafter⟩

/-- An attempt that sets up no new user has no outcome of such a setup, and changes a preference
only where it disables the service. -/
theorem provision_other (h : ¬a.Routes s .provisionNewUser) (p : Platform) (c : Client) :
    ∃ calls reports r c', a.provision p s c = (r, c') ∧ IsOther r ∧
      ((∃ action, a.Routes s action ∧
          After { c with preferences := a.settled action c.preferences } calls reports c') ∨
        After c calls reports c') := by
  by_cases hroute : ∃ action, a.Routes s action
  · obtain ⟨action, hroute⟩ := hroute
    obtain ⟨calls, r, c', hrun, hother, -, hafter⟩ :=
      provision_settled hroute (fun heq => h (heq ▸ hroute)) p c
    exact ⟨calls, _, r, c', hrun, hother, .inl ⟨action, hroute, hafter⟩⟩
  · obtain ⟨e, c', hrun, hafter⟩ := provision_unrouted (p := p) (c := c)
      fun action haction => hroute ⟨action, haction⟩
    exact ⟨[], [], _, c', hrun, .error e, .inr hafter⟩

/-- An attempt that sets up no new user sends no command. -/
theorem provision_sendsNone (h : ¬a.Routes s .provisionNewUser) (p : Platform) (c : Client) :
    ∃ calls, (a.provision p s c).2.transcript.calls = c.transcript.calls ++ calls ∧
      SendsNone calls := by
  by_cases hroute : ∃ action, a.Routes s action
  · obtain ⟨action, hroute⟩ := hroute
    obtain ⟨calls, r, c', hrun, -, hnone, hafter⟩ :=
      provision_settled hroute (fun heq => h (heq ▸ hroute)) p c
    exact ⟨calls, by rw [hrun, hafter.calls], hnone⟩
  · obtain ⟨e, c', hrun, hafter⟩ := provision_unrouted (p := p) (c := c)
      fun action haction => hroute ⟨action, haction⟩
    exact ⟨[], by rw [hrun, hafter.calls], fun text hmem => nomatch hmem⟩

end Voicemail.Attempt
