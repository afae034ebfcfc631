import Voicemail.Proofs.Provisioning.Course

/-!
# Reports of failed attempts

A setup that fails is reported once, with one exception. Where the identifier has no default PIN the
setup reports that it has failed, closes the session and releases the network; if closing or
releasing fails then, the failure is reported again. `Attempt.reportsOnce_iff` says that this is the
only exception: everything else that can go wrong, in the session, on its way there and on its way
out, is reported where it is handled and nowhere else.
-/

namespace Voicemail

open Client

namespace Bootstrap

variable {p : Platform} {b : Bootstrap} {identifier : String} {spanish pinSet : Bool}
  {c c' : Client} {calls past : List Call} {reports : List String} {r : Except Failure Bool}
  {network token text : String}

/-- The setup reaches the PIN step, and the identifier has no default PIN. -/
structure Stranded (p : Platform) (b : Bootstrap) (identifier : String) (spanish pinSet : Bool)
    (past : List Call) (network token text : String) : Prop where
  unset : pinSet = false
  underivable : Pin.derive? identifier = none
  granted : p.granted b.account past = [token]
  offered : p.offered b.account past = [network]
  opens : p.respond (past ++ [.requestNetwork b.account]) (.openSession network b.account) = .ok ()
  written : b.protocol.commands.render .changeLanguage (b.languageParams spanish) = .ok text
  accepted : ∃ response, isAccepted response = true ∧
    p.respond (past ++ [.requestNetwork b.account, .openSession network b.account])
      (.execute text) = .ok response

/-- The calls of a stranded setup until its session is closed. -/
def strandedCalls (b : Bootstrap) (past : List Call) (network text : String) : List Call :=
  past ++ [.requestNetwork b.account, .openSession network b.account, .execute text]

/-- What the session of a stranded setup gives: that it was not carried through, unless closing or
releasing fails. -/
def strandedResult (p : Platform) (b : Bootstrap) (past : List Call) (network token text : String) :
    Except Failure Bool :=
  p.released (b.strandedCalls past network text ++ [.closeSession]) token >>= fun _ =>
    p.closed (b.strandedCalls past network text) >>= fun _ => .ok false

/-- The session of a stranded setup is not carried through. -/
theorem strandedResult_ok {carried : Bool}
    (h : b.strandedResult p past network token text = .ok carried) : carried = false := by
  cases (seq_ok (seq_ok h).2).2
  rfl

/-- The commands of a stranded setup end with the report that it has failed. -/
theorem Commands.stranded (h : Commands p b identifier spanish pinSet c calls reports r c')
    (hc : c.transcript.calls =
      past ++ [.requestNetwork b.account, .openSession network b.account])
    (hs : Stranded p b identifier spanish pinSet past network token text) :
    calls = [.execute text] ∧ reports = [EventKind.newUserSetupFailed.name] ∧ r = .ok false := by
  obtain ⟨response, haccepted, hanswer⟩ := hs.accepted
  rw [← hc] at hanswer
  cases h with
  | language language judged after =>
    obtain ⟨-, rfl⟩ := language.eq_of_answer hs.written hanswer
    simp [verdict, haccepted] at judged
  | stopped language acceptance after pin ends =>
    obtain ⟨rfl, -⟩ := language.eq_of_answer hs.written hanswer
    cases pin with
    | kept set => exact absurd (set.symm.trans hs.unset) (by simp)
    | underivable => exact ⟨rfl, rfl, rfl⟩
    | unanswered _ derived => exact absurd (derived.symm.trans hs.underivable) (by simp)
    | rejected _ derived => exact absurd (derived.symm.trans hs.underivable) (by simp)
    | replaced _ derived => exact absurd (derived.symm.trans hs.underivable) (by simp)
  | tutorial language acceptance after pin =>
    cases pin with
    | kept set => exact absurd (set.symm.trans hs.unset) (by simp)
    | rejected _ derived => exact absurd (derived.symm.trans hs.underivable) (by simp)
    | replaced _ derived => exact absurd (derived.symm.trans hs.underivable) (by simp)

/-- The session of a stranded setup reports that it has failed, and then closes and releases. -/
theorem Session.stranded (h : Session p b identifier spanish pinSet c calls reports r c')
    (hs : Stranded p b identifier spanish pinSet c.transcript.calls network token text) :
    reports = [EventKind.newUserSetupFailed.name] ∧
      r = b.strandedResult p c.transcript.calls network token text := by
  cases h with
  | refused request after =>
    have := (Platform.granted_nil request).symm.trans hs.granted
    cases this
  | noNetwork request first after =>
    have := (Platform.offered_nil request first).symm.trans hs.offered
    cases this
  | notOpened request first opening after =>
    have := (Platform.offered_singleton request first).symm.trans hs.offered
    cases this
    rw [hs.opens] at opening
    cases opening
  | @worked _ _ _ _ _ c₁ c₂ _ request first opening before work after =>
    have htoken := (Platform.granted_singleton request).symm.trans hs.granted
    have hnetwork := (Platform.offered_singleton request first).symm.trans hs.offered
    cases htoken
    cases hnetwork
    obtain ⟨rfl, rfl, rfl⟩ := work.2.stranded before.calls hs
    have hcalls : c₂.transcript.calls = b.strandedCalls c.transcript.calls network text := by
      have hafter : c₂.transcript.calls = c₁.transcript.calls ++ [.execute text] :=
        work.2.follows.calls
      rw [hafter, before.calls, strandedCalls, List.append_assoc]
      rfl
    exact ⟨rfl, by rw [strandedResult, ← hcalls]⟩

/-- Commands that are not stranded neither report that the setup has failed nor end before the
tutorial. -/
theorem Commands.not_stranded (h : Commands p b identifier spanish pinSet c calls reports r c')
    (hc : c.transcript.calls =
      past ++ [.requestNetwork b.account, .openSession network b.account])
    (hgranted : p.granted b.account past = [token])
    (hoffered : p.offered b.account past = [network])
    (hopens : p.respond (past ++ [.requestNetwork b.account])
      (.openSession network b.account) = .ok ())
    (hs : ∀ text, ¬Stranded p b identifier spanish pinSet past network token text) :
    reports.count EventKind.newUserSetupFailed.name = 0 ∧ r ≠ .ok false := by
  cases h with
  | language => exact ⟨rfl, by simp⟩
  | stopped language acceptance after pin ends =>
    cases pin with
    | kept | rejected | replaced => exact absurd rfl ends
    | unanswered => exact ⟨rfl, by simp⟩
    | underivable set derived =>
      obtain ⟨text, written, -, answer⟩ := language.answer_of_ok
      rw [hc] at answer
      exact absurd ⟨set, derived, hgranted, hoffered, hopens, written, _, acceptance, answer⟩
        (hs text)
  | @tutorial _ _ _ _ _ reply _ _ _ language acceptance after pin =>
    have hr : (verdict .tutorialRejected reply).map (fun _ => true) ≠ .ok false := by
      cases verdict .tutorialRejected reply <;> simp [Except.map]
    cases pin with
    | kept => exact ⟨rfl, hr⟩
    | rejected => exact ⟨by decide, hr⟩
    | replaced => exact ⟨by decide, hr⟩

/-- A session that is not stranded neither reports that the setup has failed nor gives `false`. -/
theorem Session.not_stranded (h : Session p b identifier spanish pinSet c calls reports r c')
    (hs : ∀ network token text,
      ¬Stranded p b identifier spanish pinSet c.transcript.calls network token text) :
    reports.count EventKind.newUserSetupFailed.name = 0 ∧ r ≠ .ok false := by
  cases h with
  | refused => exact ⟨rfl, by simp⟩
  | noNetwork => exact ⟨rfl, fun hr => by cases (seq_ok hr).2⟩
  | notOpened => exact ⟨rfl, fun hr => by cases (seq_ok hr).2⟩
  | worked request first opening before work after =>
    obtain ⟨hcount, hr⟩ := work.2.not_stranded before.calls (Platform.granted_singleton request)
      (Platform.offered_singleton request first) opening (hs _ _)
    exact ⟨hcount, fun h => hr (seq_ok (seq_ok h).2).2⟩

end Bootstrap

namespace Attempt

variable {p : Platform} {a : Attempt} {s : StatusResponse} {c : Client}

/-! ## What is reported after the session -/

/-- A setup that succeeds had a session that was carried through, and reports no failure after
it. -/
theorem succeeded_ending {r : Except Failure Bool} {r' : Except Failure Outcome}
    {reports reports' : List String} (ending : Bootstrap.Ending r reports r')
    (handling : Handling r' reports' (.ok .newUserSetupOk)) :
    r = .ok true ∧ (reports ++ reports').count EventKind.newUserSetupFailed.name = 0 := by
  cases handling with
  | outcome =>
    cases ending with
    | confirmed => exact ⟨rfl, rfl⟩

/-- A setup that fails reports that after its session, unless the session ended before the
tutorial. -/
theorem failed_ending {r : Except Failure Bool} {r' : Except Failure Outcome}
    {reports reports' : List String} (ending : Bootstrap.Ending r reports r')
    (handling : Handling r' reports' (.ok .newUserSetupFailed)) :
    r = .ok false ∧ (reports ++ reports').count EventKind.newUserSetupFailed.name = 0 ∨
      r ≠ .ok false ∧ (reports ++ reports').count EventKind.newUserSetupFailed.name = 1 := by
  cases handling with
  | outcome =>
    cases ending with
    | ended => exact .inl ⟨rfl, rfl⟩
    | unavailable => exact .inr ⟨by simp, by decide⟩
  | handled =>
    cases ending with
    | unconfirmed => exact .inr ⟨by simp, by decide⟩
    | failed => exact .inr ⟨by simp, by decide⟩

/-- A failure that makes a setup fail instead of passing through it. -/
def IsReported (e : Failure) : Prop := e.isNetworkUnavailable = true ∨ isHandled e = true

/-- A session that fails with such a failure makes the setup fail. -/
theorem IsReported.fails {e : Failure} (he : IsReported e) {r' r'' : Except Failure Outcome}
    {reports reports' : List String} (ending : Bootstrap.Ending (.error e) reports r')
    (handling : Handling r' reports' r'') : r'' = .ok .newUserSetupFailed := by
  cases ending with
  | unavailable =>
    cases handling with
    | outcome => rfl
  | failed hnetwork =>
    cases handling with
    | handled => rfl
    | passed hpassed =>
      obtain h | h := he
      · exact absurd (h.symm.trans hnetwork) (by simp)
      · exact absurd (h.symm.trans hpassed) (by simp)

/-- Only with such a failure does a session that fails make the setup fail. -/
theorem IsReported.of_fails {e : Failure} {r' : Except Failure Outcome}
    {reports reports' : List String} (ending : Bootstrap.Ending (.error e) reports r')
    (handling : Handling r' reports' (.ok .newUserSetupFailed)) : IsReported e := by
  cases handling with
  | outcome =>
    cases ending with
    | unavailable he => exact .inl he
  | handled he =>
    cases ending with
    | failed => exact .inr he

/-! ## The one exception -/

/-- A setup that is stranded for a status. -/
def Stranded (p : Platform) (a : Attempt) (s : StatusResponse) (c : Client)
    (network token text : String) : Prop :=
  (a.bootstrap p c.settings.provisioning).Stranded p s.subscriberIdentifier (a.isSpanish c)
    (a.isPinSet s c) c.transcript.calls network token text

/-- The setup of a new user is stranded, and closing its session or releasing its network fails in a
way that makes the setup fail again. -/
def FailsTwice (p : Platform) (a : Attempt) (s : StatusResponse) (c : Client) : Prop :=
  a.Routes s .provisionNewUser ∧ ∃ network token text e, a.Stranded p s c network token text ∧
    (a.bootstrap p c.settings.provisioning).strandedResult p c.transcript.calls network token text =
      .error e ∧
    IsReported e

/-- What an attempt reports fits its outcome: a setup that failed is reported once, a setup that
succeeded is not reported to have failed. -/
def ReportsOnce (p : Platform) (a : Attempt) (s : StatusResponse) (c : Client) : Prop :=
  ∃ reports,
    (a.provision p s c).2.transcript.reports = c.transcript.reports ++ reports ∧
      ((a.provision p s c).1 = .ok .newUserSetupFailed →
        reports.count EventKind.newUserSetupFailed.name = 1) ∧
      ((a.provision p s c).1 = .ok .newUserSetupOk →
        reports.count EventKind.newUserSetupFailed.name = 0)

variable {c' : Client} {calls : List Call} {added : List String} {r : Except Failure Outcome}

/-- A course reports a failure once, unless the setup is stranded and fails again. -/
theorem Course.reportsOnce (h : Course p a s c calls added r c')
    (hs : ∀ {network token text e}, a.Stranded p s c network token text →
      (a.bootstrap p c.settings.provisioning).strandedResult p c.transcript.calls network token
        text = .error e → ¬IsReported e) :
    (r = .ok .newUserSetupFailed → added.count EventKind.newUserSetupFailed.name = 1) ∧
      (r = .ok .newUserSetupOk → added.count EventKind.newUserSetupFailed.name = 0) := by
  cases h with
  | @intro c₀ _ _ _ _ reports reports' reports'' q _ _ before session ending handling after asked =>
    have hcalls : c₀.transcript.calls = c.transcript.calls :=
      before.calls.trans (List.append_nil _)
    rw [List.count_append]
    by_cases hstranded : ∃ network token text, a.Stranded p s c network token text
    · -- The session has reported the failure, so what comes after it must not do so again.
      obtain ⟨network, token, text, hstranded⟩ := hstranded
      have hstay := hstranded
      rw [Stranded, ← hcalls] at hstay
      obtain ⟨rfl, hq⟩ := session.stranded hstay
      rw [hcalls] at hq
      refine ⟨?_, ?_⟩
      · rintro rfl
        obtain ⟨-, hcount⟩ | ⟨hne, -⟩ := failed_ending ending handling
        · rw [hcount]
          decide
        · match q with
          | .ok carried =>
            obtain rfl := Bootstrap.strandedResult_ok hq.symm
            exact absurd rfl hne
          | .error e => exact absurd (.of_fails ending handling) (hs hstranded hq.symm)
      · rintro rfl
        obtain ⟨rfl, -⟩ := succeeded_ending ending handling
        cases Bootstrap.strandedResult_ok hq.symm
    · obtain ⟨hcount, hq⟩ := session.not_stranded fun network token text hstay =>
        hstranded ⟨network, token, text, by rwa [Stranded, ← hcalls]⟩
      rw [hcount, Nat.zero_add]
      refine ⟨?_, ?_⟩
      · rintro rfl
        obtain ⟨hfalse, -⟩ | ⟨-, hone⟩ := failed_ending ending handling
        · exact absurd hfalse hq
        · exact hone
      · rintro rfl
        exact (succeeded_ending ending handling).2

/-- A stranded setup that fails again has reported the failure twice. -/
theorem Course.failsTwice (h : Course p a s c calls added r c') {network token text : String}
    {e : Failure} (hstranded : a.Stranded p s c network token text)
    (hresult : (a.bootstrap p c.settings.provisioning).strandedResult p c.transcript.calls network
      token text = .error e) (he : IsReported e) :
    r = .ok .newUserSetupFailed ∧ added.count EventKind.newUserSetupFailed.name = 2 := by
  cases h with
  | @intro c₀ _ _ _ _ reports reports' reports'' q _ _ before session ending handling after asked =>
    have hcalls : c₀.transcript.calls = c.transcript.calls :=
      before.calls.trans (List.append_nil _)
    rw [Stranded, ← hcalls] at hstranded
    obtain ⟨rfl, hq⟩ := session.stranded hstranded
    rw [hcalls, hresult] at hq
    subst hq
    obtain rfl := he.fails ending handling
    refine ⟨rfl, ?_⟩
    obtain ⟨hfalse, -⟩ | ⟨-, hone⟩ := failed_ending ending handling
    · cases hfalse
    · rw [List.count_append, hone]
      decide

/-- An attempt that fails twice reports the failure twice. -/
theorem FailsTwice.not_reportsOnce (h : a.FailsTwice p s c) : ¬a.ReportsOnce p s c := by
  obtain ⟨hroute, network, token, text, e, hstranded, hresult, he⟩ := h
  obtain ⟨calls, added, r, c₁, c', hrun, hcourse, -, hadds, -⟩ := provision_course hroute p c
  obtain ⟨rfl, htwo⟩ := hcourse.failsTwice hstranded hresult he
  rintro ⟨reports, hreports, hone, -⟩
  rw [hrun] at hreports hone
  have hadded : reports = added := List.append_cancel_left (hreports.symm.trans hadds)
  rw [hadded, htwo] at hone
  exact absurd (hone rfl) (by decide)

/-- An attempt reports a failed setup once, and a setup that succeeded not as failed, unless it
fails twice. -/
theorem reportsOnce_iff (p : Platform) (a : Attempt) (s : StatusResponse) (c : Client) :
    a.ReportsOnce p s c ↔ ¬a.FailsTwice p s c := by
  refine ⟨fun honce htwice => htwice.not_reportsOnce honce, fun htwice => ?_⟩
  by_cases hroute : a.Routes s .provisionNewUser
  · obtain ⟨calls, added, r, c₁, c', hrun, hcourse, -, hadds, -⟩ := provision_course hroute p c
    refine ⟨added, ?_, ?_⟩
    · rw [hrun, hadds]
    · rw [hrun]
      exact hcourse.reportsOnce fun hstranded hresult he =>
        htwice ⟨hroute, _, _, _, _, hstranded, hresult, he⟩
  · obtain ⟨calls, added, r, c', hrun, ⟨hok, hfailed⟩, hafter⟩ := provision_other hroute p c
    have hreports : c'.transcript.reports = c.transcript.reports ++ added :=
      hafter.elim (fun ⟨_, _, h⟩ => h.reports) (·.reports)
    rw [ReportsOnce, hrun]
    exact ⟨added, hreports, fun h => absurd h hfailed, fun h => absurd h hok⟩

/-- A session that cannot be closed. -/
def unclosable : Platform :=
  .faulting fun
    | .closeSession => some ⟨.io, "broken pipe"⟩
    | _ => none

/-- An identifier without a default PIN, and a session that cannot be closed: the attempt reports
the failure twice. -/
theorem not_reportsOnce_unclosable :
    ¬(forAccount "sim-1").ReportsOnce unclosable (.ofFields [("st", "N"), ("u", "x1")])
      (.new { root := ⟨.root, []⟩, configPath := none } none []) := by
  refine FailsTwice.not_reportsOnce ⟨⟨rfl, rfl⟩, "network", "token", "CHANGE_VM_LANG Lang=5",
    .fault ⟨.io, "broken pipe"⟩, ?_, rfl, .inr rfl⟩
  exact ⟨rfl, by decide, rfl, rfl, rfl, rfl, "OK", rfl, rfl⟩

end Attempt

end Voicemail
