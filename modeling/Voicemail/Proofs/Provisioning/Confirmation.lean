import Voicemail.Proofs.Bootstrap.Plan
import Voicemail.Proofs.Provisioning.Reports

/-!
# Requests for the status after a setup

When the commands of a setup were carried through and what it acquired was given up without a
failure, the setup is finished (`Bootstrap.Finished`) and only the request for the status is left.
What comes of that request decides the result all the same (`Bootstrap.run_cases`): a fault of input
or output is passed over, and every other one takes the place of the result. So the setup keeps its
success exactly if no such fault comes of the request, and so does the attempt that it is part of
(`keepsSetup_iff`).
-/

namespace Voicemail

open Client

/-! ## Requests for the status -/

/-- What comes of an exchange that asks for the status: through the platform, or by a message to the
carrier. -/
def Exchange.asked? : Exchange → Option (Except Fault Unit)
  | ⟨.requestStatus, answer⟩ | ⟨.sendMessage _ _ _, answer⟩ => some answer
  | _ => none

namespace Platform

variable {p : Platform} {past calls : List Call} {c c' : Client}

/-- What came of the requests for the status among calls made after others. -/
def asked (p : Platform) (past calls : List Call) : List (Except Fault Unit) :=
  (p.dialogue past calls).filterMap Exchange.asked?

/-- Among more calls, requests for the status are answered by all calls before them. -/
theorem asked_append (calls more : List Call) :
    p.asked past (calls ++ more) = p.asked past calls ++ p.asked (past ++ calls) more := by
  simp only [asked, dialogue_append, List.filterMap_append]

/-- Commands do not ask for the status. -/
theorem asked_execute (texts : List String) : p.asked past (texts.map .execute) = [] := by
  induction texts generalizing past with
  | nil => rfl
  | cons text rest ih => exact ih

/-- A call that asks for the status sends no command and gives nothing up. -/
theorem asked_singleton {ask : Call} {answer : Except Fault Unit}
    (h : p.asked past [ask] = [answer]) :
    p.sent past [ask] = [] ∧ (p.dialogue past [ask]).any Exchange.failsRelease = false := by
  cases ask with
  | requestStatus | sendMessage => exact ⟨rfl, rfl⟩
  | requestNetwork | releaseNetwork | openSession | execute | closeSession | subscribe => cases h

/-- The exchanges that a client had since it was another one. -/
def since (p : Platform) (c c' : Client) : List Exchange :=
  p.dialogue c.transcript.calls (c'.transcript.calls.drop c.transcript.calls.length)

/-- They are the dialogue of the calls that were added. -/
theorem since_eq (h : c'.transcript.calls = c.transcript.calls ++ calls) :
    p.since c c' = p.dialogue c.transcript.calls calls := by
  rw [since, h, List.drop_left]

end Platform

namespace Bootstrap

variable {p : Platform} {b : Bootstrap} {identifier : String} {spanish pinSet : Bool}
  {c c' : Client} {calls more : List Call} {reports : List String} {r : Except Failure Bool}
  {new : String}

/-- The request for the status is one call that asks for it. -/
def AsksOnce (p : Platform) (b : Bootstrap) : Prop :=
  ∀ c, b.requestStatus c = perform p .requestStatus c ∨
    ∃ number port text, b.requestStatus c = perform p (.sendMessage number port text) c

/-- What comes of the request is what comes of its call. -/
theorem AsksOnce.request (h : b.AsksOnce p) (c : Client) :
    ∃ ask answer c', b.requestStatus c = (answer.mapError .fault, c') ∧ After c [ask] [] c' ∧
      p.asked c.transcript.calls [ask] = [answer] := by
  obtain hask | ⟨number, port, text, hask⟩ := h c
  · obtain ⟨c', hrun, hafter⟩ := After.perform p .requestStatus c
    exact ⟨_, _, c', hask.trans hrun, hafter, rfl⟩
  · obtain ⟨c', hrun, hafter⟩ := After.perform p (.sendMessage number port text) c
    exact ⟨_, _, c', hask.trans hrun, hafter, rfl⟩

/-! ## Finished setups -/

/-- All that a setup has to do was done but the request for the status: its plan was carried
through, and nothing failed in giving up what it acquired. -/
structure Finished (plan : List Step) (dialogue : List Exchange) : Prop where
  carried : Carried plan (dialogue.filterMap Exchange.sent?)
  released : dialogue.any Exchange.failsRelease = false

/-- A request for the status failed in another way than by input or output. -/
def Undone (dialogue : List Exchange) : Prop :=
  ∃ f, .error f ∈ dialogue.filterMap Exchange.asked? ∧ f.kind.isIo = false

/-- A setup is finished exactly if its session gave `true`, whatever else is called after it that
sends nothing and gives nothing up. -/
theorem Session.finished_iff (h : Session p b identifier spanish pinSet c calls reports r c')
    (hsent : p.sent (c.transcript.calls ++ calls) more = [])
    (hreleased :
      (p.dialogue (c.transcript.calls ++ calls) more).any Exchange.failsRelease = false) :
    Finished (b.plan identifier spanish pinSet (b.drawnPin c))
        (p.dialogue c.transcript.calls (calls ++ more)) ↔ r = .ok true := by
  have hcarried : (p.dialogue c.transcript.calls (calls ++ more)).filterMap Exchange.sent? =
      p.sent c.transcript.calls calls := by
    show p.sent c.transcript.calls (calls ++ more) = _
    rw [Platform.sent_append, hsent, List.append_nil]
  have hany : (p.dialogue c.transcript.calls (calls ++ more)).any Exchange.failsRelease =
      (p.dialogue c.transcript.calls calls).any Exchange.failsRelease := by
    rw [Platform.dialogue_append, List.any_append, hreleased, Bool.or_false]
  rw [h.planned.2]
  refine ⟨fun hf => ⟨hcarried ▸ hf.carried, hany ▸ hf.released⟩, fun hf => ⟨?_, ?_⟩⟩
  · rw [hcarried]
    exact hf.1
  · rw [hany]
    exact hf.2

/-- In a session the status is not asked for. -/
theorem Session.asked_eq_nil (h : Session p b identifier spanish pinSet c calls reports r c') :
    p.asked c.transcript.calls calls = [] := by
  cases h with
  | refused | noNetwork | notOpened => rfl
  | @worked grant network texts _ _ _ _ _ _ _ _ _ work =>
    obtain ⟨texts, rfl⟩ := work.2.calls_execute
    show p.asked _ ([.requestNetwork b.account, .openSession network b.account] ++
      (texts.map .execute ++ [.closeSession, .releaseNetwork grant.token])) = []
    rw [Platform.asked_append, Platform.asked_append, Platform.asked_execute]
    rfl

/-- A session that gives `true` does not report that the setup has failed. -/
theorem Session.count_of_true
    (h : Session p b identifier spanish pinSet c calls reports (.ok true) c') :
    reports.count EventKind.newUserSetupFailed.name = 0 := by
  by_cases hs : ∃ network token text,
      Stranded p b identifier spanish pinSet c.transcript.calls network token text
  · obtain ⟨network, token, text, hs⟩ := hs
    cases strandedResult_ok (h.stranded hs).2.symm
  · exact (h.not_stranded fun network token text hstay => hs ⟨network, token, text, hstay⟩).1

/-! ## Conclusions -/

/-- What a finished setup gives, by what comes of the request for the status. -/
def confirmed : Except Fault Unit → Except Failure Outcome
  | .ok () => .ok .newUserSetupOk
  | .error f => if f.kind.isIo then .ok .newUserSetupOk else .error (.fault f)

/-- It is a success, or the fault of the request if that is not one of input or output. -/
theorem confirmed_cases (answer : Except Fault Unit) :
    (¬∃ f, answer = .error f ∧ f.kind.isIo = false) ∧ confirmed answer = .ok .newUserSetupOk ∨
      ∃ f, answer = .error f ∧ f.kind.isIo = false ∧ confirmed answer = .error (.fault f) := by
  cases answer with
  | ok => exact .inl ⟨by simp, rfl⟩
  | error f =>
    cases hio : f.kind.isIo with
    | true =>
      refine .inl ⟨?_, by rw [confirmed, if_pos hio]⟩
      rintro ⟨f', hf, hio'⟩
      cases hf
      exact absurd (hio.symm.trans hio') (by decide)
    | false => exact .inr ⟨f, rfl, hio, by rw [confirmed, hio]; rfl⟩

/-- After a session that gave `true` the status is asked for once, and what comes of that decides
the result. -/
theorem conclude_confirmed (h : b.AsksOnce p) (c : Client) :
    ∃ ask answer c', b.conclude (.ok true) c = (confirmed answer, c') ∧ After c [ask] [] c' ∧
      p.asked c.transcript.calls [ask] = [answer] := by
  obtain ⟨ask, answer, c₁, hrequest, hafter₁, hasked⟩ := h.request c
  have hattempt : attempt b.requestStatus c = (.ok (answer.mapError .fault), c₁) := by
    rw [attempt_apply, hrequest]
  refine ⟨ask, answer, ?_⟩
  cases answer with
  | ok =>
    have hconfirm : b.confirm c = (.ok (), c₁) := by
      rw [confirm, bind_ok hattempt]
      rfl
    exact ⟨c₁, bind_ok hconfirm, hafter₁, hasked⟩
  | error f =>
    cases hio : f.kind.isIo with
    | true =>
      obtain ⟨c₂, hlog, hafter₂⟩ := After.log .bootstrap (by decide) .warning
        "new_user.status_request_failed" [("error", .str (Failure.fault f).message)] c₁
      have hconfirm : b.confirm c = (.ok (), c₂) := by
        rw [confirm, bind_ok hattempt]
        simp only [Except.mapError, Failure.isIo, hio, if_true, hlog]
      refine ⟨c₂, ?_, hafter₁.quietly hafter₂, hasked⟩
      rw [confirmed, if_pos hio]
      exact bind_ok hconfirm
    | false =>
      have hconfirm : b.confirm c = (.error (.fault f), c₁) := by
        rw [confirm, bind_ok hattempt]
        simp only [Except.mapError, Failure.isIo, hio]
        rfl
      refine ⟨c₁, ?_, hafter₁, hasked⟩
      rw [confirmed, hio]
      exact bind_error hconfirm

/-- How a setup goes on after its session: one that gave `true` leads to a request for the status,
which decides the result, and another does not. -/
theorem run_cases (p : Platform) (identifier : String) (spanish pinSet : Bool) (c : Client)
    (hr : b.reporter.IsQuiet) (hs : b.AsksOnce p) :
    ∃ calls reports r c₁, Session p b identifier spanish pinSet c calls reports r c₁ ∧
      ((r = .ok true ∧ ∃ ask answer c',
          run p b identifier spanish pinSet c = (confirmed answer, c') ∧ After c₁ [ask] [] c' ∧
          p.asked c₁.transcript.calls [ask] = [answer]) ∨
        (r ≠ .ok true ∧ ∃ r' reports' c',
          run p b identifier spanish pinSet c = (r', c') ∧ After c₁ [] reports' c')) := by
  obtain ⟨calls, reports, r, c₁, hsession, hvisit⟩ :=
    runSession_visit p identifier spanish pinSet c hr
  refine ⟨calls, reports, r, c₁, hvisit, ?_⟩
  rw [run_conclude hsession]
  by_cases htrue : r = .ok true
  · subst htrue
    exact .inl ⟨rfl, conclude_confirmed hs c₁⟩
  · have hasks : b.AsksBy fun _ => True := fun c₂ => by
      obtain ⟨ask, answer, c₃, hrun, hafter, -⟩ := hs.request c₂
      exact ⟨_, _, c₃, hrun, trivial, hafter⟩
    obtain ⟨r', calls', reports', c', hrun, hafter, -, ⟨hr', -⟩ | ⟨-, rfl⟩⟩ :=
      conclude_ending hasks hr r c₁
    · exact absurd hr' htrue
    · exact .inr ⟨htrue, r', reports', c', hrun, hafter⟩

/-- After a session that gave `true` and a request for the status the setup is finished, and it is
undone exactly if another fault than one of input or output came of the request. -/
theorem Session.asked {ask : Call} {answer : Except Fault Unit}
    (h : Session p b identifier spanish pinSet c calls reports (.ok true) c')
    (hasked : p.asked c'.transcript.calls [ask] = [answer]) :
    Finished (b.plan identifier spanish pinSet (b.drawnPin c))
        (p.dialogue c.transcript.calls (calls ++ [ask])) ∧
      (Undone (p.dialogue c.transcript.calls (calls ++ [ask])) ↔
        ∃ f, answer = .error f ∧ f.kind.isIo = false) := by
  have hcalls : c'.transcript.calls = c.transcript.calls ++ calls := h.follows.calls
  rw [hcalls] at hasked
  obtain ⟨hsent, hreleased⟩ := Platform.asked_singleton hasked
  refine ⟨(h.finished_iff hsent hreleased).2 rfl, ?_⟩
  have hall : p.asked c.transcript.calls (calls ++ [ask]) = [answer] := by
    rw [Platform.asked_append, h.asked_eq_nil, hasked, List.nil_append]
  show (∃ f, .error f ∈ p.asked c.transcript.calls (calls ++ [ask]) ∧ f.kind.isIo = false) ↔ _
  rw [hall]
  simp only [List.mem_singleton, eq_comm]

/-- After another session the setup is not finished. -/
theorem Session.not_finished (h : Session p b identifier spanish pinSet c calls reports r c')
    (hne : r ≠ .ok true) :
    ¬Finished (b.plan identifier spanish pinSet (b.drawnPin c))
      (p.dialogue c.transcript.calls calls) := fun hf => by
  rw [← List.append_nil calls] at hf
  exact hne ((h.finished_iff rfl rfl).1 hf)

/-- A setup that is finished succeeds. -/
def KeepsSetup (p : Platform) (b : Bootstrap) (identifier : String) (spanish pinSet : Bool)
    (c : Client) : Prop :=
  Finished (b.plan identifier spanish pinSet (b.drawnPin c))
      (p.since c (run p b identifier spanish pinSet c).2) →
    (run p b identifier spanish pinSet c).1 = .ok .newUserSetupOk

/-- A setup is finished, and the request for the status undoes it. -/
def LosesSetup (p : Platform) (b : Bootstrap) (identifier : String) (spanish pinSet : Bool)
    (c : Client) : Prop :=
  Finished (b.plan identifier spanish pinSet (b.drawnPin c))
      (p.since c (run p b identifier spanish pinSet c).2) ∧
    Undone (p.since c (run p b identifier spanish pinSet c).2)

/-- A setup keeps its success exactly if the request for the status does not undo it. -/
theorem keeps_iff_not_loses (identifier : String) (spanish pinSet : Bool) (c : Client)
    (hr : b.reporter.IsQuiet) (hs : b.AsksOnce p) :
    b.KeepsSetup p identifier spanish pinSet c ↔ ¬b.LosesSetup p identifier spanish pinSet c := by
  obtain ⟨calls, reports, r, c₁, hsession, hrun⟩ :=
    run_cases p identifier spanish pinSet c hr hs
  have hcalls : c₁.transcript.calls = c.transcript.calls ++ calls := hsession.follows.calls
  obtain ⟨rfl, ask, answer, c', hrun, hafter, hasked⟩ | ⟨hne, r', _, c', hrun, hafter⟩ := hrun
  · have hsince : p.since c c' = p.dialogue c.transcript.calls (calls ++ [ask]) :=
      Platform.since_eq (by rw [hafter.calls, hcalls, List.append_assoc])
    obtain ⟨hfinished, hundone⟩ := hsession.asked hasked
    rw [KeepsSetup, LosesSetup, hrun, hsince, hundone]
    obtain ⟨hnone, hok⟩ | ⟨f, hf, hio, herror⟩ := confirmed_cases answer
    · exact ⟨fun _ hloses => hnone hloses.2, fun _ _ => hok⟩
    · refine ⟨fun hkeeps => ?_, fun hkept => absurd ⟨hfinished, f, hf, hio⟩ hkept⟩
      exact nomatch (herror.symm.trans (hkeeps hfinished))
  · have hsince : p.since c c' = p.dialogue c.transcript.calls calls :=
      Platform.since_eq (by rw [hafter.calls, hcalls, List.append_nil])
    have hnot := hsession.not_finished hne
    rw [KeepsSetup, LosesSetup, hrun, hsince]
    exact ⟨fun _ hloses => hnot hloses.1, fun _ hf => absurd hf hnot⟩

end Bootstrap

namespace Attempt

variable {p : Platform} {a : Attempt} {s : StatusResponse} {c : Client}

/-! ## Attempts -/

/-- The setup that an attempt makes. -/
abbrev setup (p : Platform) (a : Attempt) (c : Client) : Bootstrap :=
  a.bootstrap p c.settings.provisioning

/-- What an attempt sends to set up a new user. -/
def plan (p : Platform) (a : Attempt) (s : StatusResponse) (c : Client) : List Step :=
  (a.setup p c).plan s.subscriberIdentifier (a.isSpanish c) (a.isPinSet s c)
    ((a.setup p c).drawnPin (a.storing s c))

/-- An attempt asks for the status by a message to the carrier. -/
theorem bootstrap_asksOnce (p : Platform) (a : Attempt) (settings : ProvisioningSettings) :
    (a.bootstrap p settings).AsksOnce p := fun c => by
  refine .inr ⟨c.settings.sms.destinationNumber, c.settings.sms.applicationPort,
    Request.status.text, ?_⟩
  have hsends : a.protocol.sender.sends .status = true := by
    cases a.protocol.sender <;> rfl
  show a.send p .status c = _
  rw [send, if_pos hsends, bind_ok (get_apply c)]

/-- An attempt that sets up a new user runs the setup on a client that stored the fields of the
status, and gives what becomes of its result. -/
theorem provision_handle (h : a.Routes s .provisionNewUser) (p : Platform) (c : Client) :
    ∃ c₀,
      After { a.storing s c with context := c.context.bind a.account a.protocol.name } [] [] c₀ ∧
      ∀ {r c₁}, (a.setup p c).run p s.subscriberIdentifier (a.isSpanish c) (a.isPinSet s c) c₀ =
          (r, c₁) →
        ∃ r' reports c', a.provision p s c = (r', c') ∧ Handling r reports r' ∧
          c'.transcript.calls = c₁.transcript.calls ∧
          c'.transcript.reports = c₁.transcript.reports ++ reports := by
  obtain ⟨c₀, hbound, hprovision⟩ := provision_carryOut h p c
  obtain ⟨c₁, hput, hstored⟩ :=
    After.putPreferences a.account (s.rawFields.map fun field => (field.1, some field.2)) c₀
  change After (a.storing s c₀) [] [] c₁ at hstored
  have hspanish : a.isSpanish c₀ = a.isSpanish c := by
    simp only [isSpanish, effectiveLocale, hbound.settings, hbound.systemLocale]
  have hpinSet : a.isPinSet s c₀ = a.isPinSet s c := by
    simp only [isPinSet, storing, hbound.preferences]
  have hbefore := hbound.storing (a.storing s c₀).preferences
  have hpreferences : (a.storing s c₀).preferences = (a.storing s c).preferences := by
    simp only [storing, hbound.preferences]
  rw [hpreferences] at hbefore
  have hstoring : { c₀ with preferences := (a.storing s c).preferences } = a.storing s c₀ := by
    rw [← hpreferences]
    rfl
  rw [hstoring] at hbefore
  refine ⟨c₁, hbefore.quietly hstored, fun {r c₂} hrun => ?_⟩
  have hsetup := setUpNewUser_handle (p := p) (r := r) hput hstored (by
    rw [hbound.settings, hspanish, hpinSet]
    exact hrun)
  obtain ⟨r', reports, c₃, hhandle, hafter, hhandling⟩ := a.handle_handling r c₂
  obtain ⟨c₄, hattempt, hafter'⟩ := hprovision (hsetup.trans hhandle)
  refine ⟨r', reports, _, hattempt, hhandling, ?_, ?_⟩
  · exact (hafter.quietly hafter').calls.trans (List.append_nil _)
  · exact (hafter.quietly hafter').reports

/-- The reports that a client made since it was another one. -/
def reportsSince (c c' : Client) : List String :=
  c'.transcript.reports.drop c.transcript.reports.length

/-- An attempt whose setup is finished succeeds, and does not report that the setup has failed. -/
def KeepsSetup (p : Platform) (a : Attempt) (s : StatusResponse) (c : Client) : Prop :=
  Bootstrap.Finished (a.plan p s c) (p.since c (a.provision p s c).2) →
    (a.provision p s c).1 = .ok .newUserSetupOk ∧
      (reportsSince c (a.provision p s c).2).count EventKind.newUserSetupFailed.name = 0

/-- The setup of an attempt is finished, and the request for the status undoes it. -/
def LosesSetup (p : Platform) (a : Attempt) (s : StatusResponse) (c : Client) : Prop :=
  Bootstrap.Finished (a.plan p s c) (p.since c (a.provision p s c).2) ∧
    Bootstrap.Undone (p.since c (a.provision p s c).2)

/-- The plan of an attempt is that of its setup, which draws the PIN from what is stored. -/
theorem plan_eq {c₀ : Client} {context : LogContext}
    (h : After { a.storing s c with context } [] [] c₀) :
    (a.setup p c).plan s.subscriberIdentifier (a.isSpanish c) (a.isPinSet s c)
      ((a.setup p c).drawnPin c₀) = a.plan p s c := by
  have hpin : (a.setup p c).drawnPin c₀ = (a.setup p c).drawnPin (a.storing s c) := by
    simp only [Bootstrap.drawnPin, h.preferences, h.draws]
  rw [plan, hpin]

/-- An attempt that sets up no new user finishes no setup. -/
theorem not_finished_other (h : ¬a.Routes s .provisionNewUser) (p : Platform) (c : Client)
    (plan : List Step) : ¬Bootstrap.Finished plan (p.since c (a.provision p s c).2) := fun hf => by
  obtain ⟨calls, hcalls, hnone⟩ := provision_sendsNone h p c
  have hcarried := hf.carried
  rw [Platform.since_eq hcalls] at hcarried
  have hsent : (p.dialogue c.transcript.calls calls).filterMap Exchange.sent? = [] :=
    Platform.sent_eq_nil hnone
  rw [hsent] at hcarried
  exact hcarried.not_nil

/-- How an attempt that sets up a new user goes on after the session of its setup: what its result
is, what was exchanged and what was reported. -/
theorem provision_cases (hroute : a.Routes s .provisionNewUser) (p : Platform) (c : Client) :
    ∃ c₀ calls reports r c₁,
      Bootstrap.Session p (a.setup p c) s.subscriberIdentifier (a.isSpanish c) (a.isPinSet s c) c₀
        calls reports r c₁ ∧
      (a.setup p c).plan s.subscriberIdentifier (a.isSpanish c) (a.isPinSet s c)
        ((a.setup p c).drawnPin c₀) = a.plan p s c ∧
      ((r = .ok true ∧ ∃ ask answer r' more c', a.provision p s c = (r', c') ∧
          Handling (Bootstrap.confirmed answer) more r' ∧
          p.since c c' = p.dialogue c₀.transcript.calls (calls ++ [ask]) ∧
          reportsSince c c' = reports ++ more ∧ p.asked c₁.transcript.calls [ask] = [answer]) ∨
        (r ≠ .ok true ∧
          p.since c (a.provision p s c).2 = p.dialogue c₀.transcript.calls calls)) := by
  obtain ⟨c₀, hbefore, hprovision⟩ := provision_handle hroute p c
  obtain ⟨calls, reports, r, c₁, hsession, hrun⟩ :=
    Bootstrap.run_cases p s.subscriberIdentifier (a.isSpanish c) (a.isPinSet s c) c₀
      (Reporter.toBus_isQuiet a.protocol a.account) (bootstrap_asksOnce p a _)
  have hcalls₀ : c₀.transcript.calls = c.transcript.calls :=
    hbefore.calls.trans (List.append_nil _)
  have hreports₀ : c₀.transcript.reports = c.transcript.reports :=
    hbefore.reports.trans (List.append_nil _)
  have hcalls : c₁.transcript.calls = c₀.transcript.calls ++ calls := hsession.follows.calls
  have hreports : c₁.transcript.reports = c₀.transcript.reports ++ reports :=
    hsession.follows.reports
  refine ⟨c₀, calls, reports, r, c₁, hsession, plan_eq hbefore, ?_⟩
  obtain ⟨htrue, ask, answer, c₂, hrun, hafter, hasked⟩ | ⟨hne, r', _, c₂, hrun, hafter⟩ := hrun
  · obtain ⟨r', more, c', hattempt, hhandling, hcalls', hreports'⟩ := hprovision hrun
    refine .inl ⟨htrue, ask, answer, r', more, c', hattempt, hhandling, ?_, ?_, hasked⟩
    · rw [hcalls₀]
      refine Platform.since_eq ?_
      rw [hcalls', hafter.calls, hcalls, hcalls₀, List.append_assoc]
    · rw [reportsSince, hreports', hafter.reports, List.append_nil, hreports, hreports₀,
        List.append_assoc, List.drop_left]
  · obtain ⟨r'', more, c', hattempt, -, hcalls', -⟩ := hprovision hrun
    refine .inr ⟨hne, ?_⟩
    rw [hattempt, hcalls₀]
    refine Platform.since_eq ?_
    rw [hcalls', hafter.calls, hcalls, hcalls₀, List.append_nil]

/-- An attempt keeps the success of its setup, and reports no failure, exactly if the request for
the status does not undo it. -/
theorem keeps_iff_not_loses (p : Platform) (a : Attempt) (s : StatusResponse) (c : Client) :
    a.KeepsSetup p s c ↔ ¬a.LosesSetup p s c := by
  by_cases hroute : a.Routes s .provisionNewUser
  case neg =>
    have hnot := not_finished_other hroute p c (a.plan p s c)
    exact ⟨fun _ hloses => hnot hloses.1, fun _ hf => absurd hf hnot⟩
  case pos =>
    obtain ⟨c₀, calls, reports, r, c₁, hsession, hplan, hcases⟩ := provision_cases hroute p c
    obtain ⟨rfl, ask, answer, r', more, c', hattempt, hhandling, hsince, hmade, hasked⟩ |
      ⟨hne, hsince⟩ := hcases
    · obtain ⟨hfinished, hundone⟩ := hsession.asked hasked
      rw [hplan] at hfinished
      rw [KeepsSetup, LosesSetup, hattempt, hsince, hundone, hmade]
      obtain ⟨hnone, hok⟩ | ⟨f, hf, hio, herror⟩ := Bootstrap.confirmed_cases answer
      · rw [hok] at hhandling
        cases hhandling
        refine ⟨fun _ hloses => hnone hloses.2, fun _ _ => ⟨rfl, ?_⟩⟩
        rw [List.append_nil]
        exact hsession.count_of_true
      · rw [herror] at hhandling
        refine ⟨fun hkeeps => ?_, fun hkept => absurd ⟨hfinished, f, hf, hio⟩ hkept⟩
        have hok := (hkeeps hfinished).1
        cases hhandling <;> cases hok
    · have hnot := hsession.not_finished hne
      rw [hplan] at hnot
      rw [KeepsSetup, LosesSetup, hsince]
      exact ⟨fun _ hloses => hnot hloses.1, fun _ hf => absurd hf hnot⟩

end Attempt

/-! ## When a finished setup keeps its success -/

/-- A setup keeps its success exactly if the request for the status that follows does not undo it,
and so does every attempt that makes one. -/
theorem keepsSetup_iff (p : Platform) :
    (∀ (b : Bootstrap) (identifier : String) (spanish pinSet : Bool) (c : Client),
        b.reporter.IsQuiet → b.AsksOnce p →
        (b.KeepsSetup p identifier spanish pinSet c ↔
          ¬b.LosesSetup p identifier spanish pinSet c)) ∧
      ∀ (a : Attempt) (s : StatusResponse) (c : Client),
        a.KeepsSetup p s c ↔ ¬a.LosesSetup p s c :=
  ⟨fun b identifier spanish pinSet c hr hs =>
      b.keeps_iff_not_loses identifier spanish pinSet c hr hs,
    fun a s c => a.keeps_iff_not_loses p s c⟩

/-- A platform that loses its modem before a message is sent. -/
def modemLost : Platform :=
  .faulting fun
    | .sendMessage _ _ _ => some ⟨.session, "modem lost"⟩
    | _ => none

/-- The client of a fresh installation. -/
def freshClient : Client := .new { root := ⟨.root, []⟩, configPath := none } none [1234567890]

/-- The status of a new subscriber. -/
def newSubscriber : StatusResponse := .ofFields [("st", "N"), ("u", "2065551234@x")]

/-- A setup and an attempt on a platform without a modem, by the theorem. -/
theorem keepsSetup_iff_modemLost :
    ((Attempt.setup modemLost (Attempt.forAccount "sim-1") freshClient).KeepsSetup modemLost
        "2065551234@x" false false freshClient ↔
      ¬(Attempt.setup modemLost (Attempt.forAccount "sim-1") freshClient).LosesSetup modemLost
        "2065551234@x" false false freshClient) ∧
      ((Attempt.forAccount "sim-1").KeepsSetup modemLost newSubscriber freshClient ↔
        ¬(Attempt.forAccount "sim-1").LosesSetup modemLost newSubscriber freshClient) :=
  ⟨(keepsSetup_iff modemLost).1 _ _ _ _ _ (Reporter.toBus_isQuiet _ _)
      (Attempt.bootstrap_asksOnce _ _ _),
    (keepsSetup_iff modemLost).2 _ _ _⟩

/-- All commands are accepted and all is given up, but the modem is lost when the status is asked
for, and the attempt reports that the setup has failed. -/
theorem not_keepsSetup_modemLost :
    ¬(Attempt.forAccount "sim-1").KeepsSetup modemLost newSubscriber freshClient := fun hkeeps => by
  have hsince : (modemLost.since freshClient
      ((Attempt.forAccount "sim-1").provision modemLost newSubscriber freshClient).2) =
      [⟨.requestNetwork "sim-1", .ok ⟨"token", [.available "network"]⟩⟩,
        ⟨.openSession "network" "sim-1", .ok ()⟩,
        ⟨.execute "CHANGE_VM_LANG Lang=5", .ok "OK"⟩,
        ⟨.execute "CHANGE_TUI_PWD PWD=123456 OLD_PWD=11234", .ok "OK"⟩,
        ⟨.execute "CLOSE_NUT", .ok "OK"⟩,
        ⟨.closeSession, .ok ()⟩, ⟨.releaseNetwork "token", .ok ()⟩,
        ⟨.sendMessage "" 0 "STATUS", .error ⟨.session, "modem lost"⟩⟩] := rfl
  have hfinished : Bootstrap.Finished
      ((Attempt.forAccount "sim-1").plan modemLost newSubscriber freshClient)
      (modemLost.since freshClient
        ((Attempt.forAccount "sim-1").provision modemLost newSubscriber freshClient).2) := by
    rw [hsince]
    have hplan : (Attempt.forAccount "sim-1").plan modemLost newSubscriber freshClient =
        [.setLanguage "5", .changePin "123456" "11234", .closeTutorial] := rfl
    rw [hplan]
    exact ⟨⟨by decide, .cons (fun _ => rfl) (.cons (fun _ => rfl) (.cons (fun _ => rfl) .nil))⟩,
      rfl⟩
  have hresult : ((Attempt.forAccount "sim-1").provision modemLost newSubscriber freshClient).1 =
      .ok .newUserSetupFailed := rfl
  have hok := (hkeeps hfinished).1
  cases hresult.symm.trans hok

end Voicemail
