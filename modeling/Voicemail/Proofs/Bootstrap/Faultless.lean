import Voicemail.Proofs.Bootstrap.Cooperation

/-!
# Platforms without faults

A platform that never faults may still have no network, say nothing in time, or have a server that
rejects every command. A setup makes an outcome of the first two and fails with a session's failure
in the third; the one other failure that is left is a time limit that the clock cannot count
(`Bootstrap.run_faultless`).
-/

namespace Voicemail

open Client

/-- A platform that answers every call. -/
def Platform.IsFaultless (p : Platform) : Prop :=
  ∀ past call, ∃ answer, p.respond past call = .ok answer

/-- A platform on which everything succeeds answers every call. -/
theorem Platform.obliging_faultless : Platform.obliging.IsFaultless := by
  intro past call
  cases call <;> exact ⟨_, rfl⟩

/-- A command that has a text is responded to. -/
theorem Client.Reply.responded {p : Platform} {table : CommandTable} {command : Command}
    {params : List (String × Json)} {history calls : List Call} {r : Except Failure String}
    (h : Reply p table command params history calls r) (hp : p.IsFaultless)
    (written : ∃ text, table.render command params = .ok text) : ∃ response, r = .ok response := by
  obtain ⟨text, written⟩ := written
  obtain ⟨response, answer⟩ := hp history (.execute text)
  exact ⟨response, (h.eq_of_answer written answer).2⟩

/-- What a verdict does not accept is a failure of the session. -/
theorem Client.verdict_error {rejected : String → Failure} (hr : ∀ s, (rejected s).isSession = true)
    {response : String} {e : Failure} (h : verdict rejected (.ok response) = .error e) :
    e.isSession = true := by
  unfold verdict at h
  dsimp only at h
  split at h
  · cases h
  · obtain rfl := Except.error.inj h
    exact hr _

/-- Without an offer there is no network, unless the clock cannot count the time to wait. -/
theorem Client.firstNetwork_error {account : String} {limit : TimeLimit}
    {replies : List NetworkReply} {e : Failure}
    (h : firstNetwork account limit replies = .error e) :
    e.isNetworkUnavailable = true ∨ e = .beyondClock limit ∧ limit.isBeyondClock = true := by
  match replies with
  | .available network :: rest => cases h
  | .unavailable :: rest =>
    obtain rfl := Except.error.inj h
    exact .inl rfl
  | [] =>
    obtain rfl := Except.error.inj h
    cases hl : limit.isBeyondClock with
    | true => exact .inr ⟨rfl, rfl⟩
    | false => exact .inl rfl

namespace Bootstrap

variable {p : Platform} {b : Bootstrap} {identifier : String} {spanish pinSet : Bool}
  {c c' : Client} {calls : List Call} {reports : List String} {r : Except Failure Bool}

/-- Without a fault the PIN step does not fail. -/
theorem PinStep.faultless (h : PinStep p b identifier pinSet c calls reports r c')
    (hp : p.IsFaultless) (hw : b.protocol.commands.WritesAll) : ∃ goOn, r = .ok goOn := by
  cases h with
  | unanswered set derived reply after =>
    obtain ⟨response, he⟩ := reply.responded hp (hw (.changePin (b.drawnPin c) _))
    cases he
  | kept | underivable | rejected | replaced => exact ⟨_, rfl⟩

/-- Without a fault the commands of a setup fail only where the server rejects one. -/
theorem Commands.faultless (h : Commands p b identifier spanish pinSet c calls reports r c')
    (hp : p.IsFaultless) (hw : b.protocol.commands.WritesAll) {e : Failure} (he : r = .error e) :
    e.isSession = true := by
  cases h with
  | language language judged after =>
    obtain ⟨response, rfl⟩ :=
      language.responded hp (hw (.setLanguage (b.protocol.languageCode spanish)))
    obtain rfl := Except.error.inj he
    exact verdict_error (fun _ => rfl) judged
  | stopped language acceptance after pin ends =>
    obtain ⟨goOn, rfl⟩ := pin.faultless hp hw
    cases he
  | tutorial language acceptance after pin tutorial afterwards =>
    obtain ⟨response, rfl⟩ := tutorial.responded hp (hw .closeTutorial)
    cases hv : verdict .tutorialRejected (.ok response) with
    | ok =>
      rw [hv] at he
      cases he
    | error e' =>
      rw [hv] at he
      obtain rfl := Except.error.inj he
      exact verdict_error (fun _ => rfl) hv

/-- Failures with which a session can end on a platform without faults. -/
def IsCalm (limit : TimeLimit) (e : Failure) : Prop :=
  e.isSession = true ∨ e.isNetworkUnavailable = true ∨
    e = .beyondClock limit ∧ limit.isBeyondClock = true

/-- Without a fault a session of a setup fails only for want of a network, or where the server
rejects a command. -/
theorem Session.faultless (h : Session p b identifier spanish pinSet c calls reports r c')
    (hp : p.IsFaultless) (hw : b.protocol.commands.WritesAll) {e : Failure} (he : r = .error e) :
    IsCalm b.networkTimeout e := by
  have hreleased (past : List Call) (token : String) : p.released past token = .ok () := by
    obtain ⟨⟨⟩, hanswer⟩ := hp past (.releaseNetwork token)
    rw [Platform.released, hanswer]
    rfl
  have hclosed (past : List Call) : p.closed past = .ok () := by
    obtain ⟨⟨⟩, hanswer⟩ := hp past .closeSession
    rw [Platform.closed, hanswer]
    rfl
  cases h with
  | refused request =>
    obtain ⟨grant, hgrant⟩ := hp c.transcript.calls (.requestNetwork b.account)
    cases hgrant.symm.trans request
  | noNetwork request first after =>
    rw [hreleased] at he
    obtain rfl := Except.error.inj he
    exact .inr (firstNetwork_error first)
  | notOpened request first opening after =>
    obtain ⟨_, hopen⟩ := hp _ (.openSession _ b.account)
    cases hopen.symm.trans opening
  | worked request first opening before work after =>
    rw [hreleased, hclosed] at he
    exact .inl (work.2.faultless hp hw he)

/-- Without a fault a setup fails only where the server rejects a command or the clock cannot count
the time to wait. -/
theorem run_faultless (hp : p.IsFaultless) (hw : b.protocol.commands.WritesAll)
    (hr : b.reporter.IsQuiet) {asked : List Call → Prop} (ha : b.AsksBy asked)
    (hask : ∀ c, (b.requestStatus c).1 = .ok ()) (identifier : String) (spanish pinSet : Bool)
    (c : Client) {e : Failure} (he : (run p b identifier spanish pinSet c).1 = .error e) :
    e.isSession = true ∨
      e = .beyondClock b.networkTimeout ∧ b.networkTimeout.isBeyondClock = true := by
  obtain ⟨calls, reports, r, c₁, hrun, hsession⟩ :=
    runSession_visit p identifier spanish pinSet c hr
  rw [run_conclude hrun] at he
  obtain ⟨r', more, reports', c₂, hconclude, hafter, hending, -⟩ := conclude_ending ha hr r c₁
  rw [hconclude] at he
  obtain rfl : r' = .error e := he
  cases hending with
  | unconfirmed =>
    have hconfirm : (b.confirm c₁).1 = .ok () := by
      rw [confirm, bind_ok (attempt_apply _ c₁), hask]
      rfl
    have hok := (conclude_ok_iff b (.ok true) c₁).2 ⟨rfl, hconfirm⟩
    rw [hconclude] at hok
    cases hok
  | failed hnetwork =>
    obtain h | h | h := hsession.faultless hp hw rfl
    · exact .inl h
    · cases h.symm.trans hnetwork
    · exact .inr h

end Bootstrap

end Voicemail
