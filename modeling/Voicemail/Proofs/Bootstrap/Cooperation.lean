import Voicemail.Proofs.Bootstrap.Plan
import Voicemail.Proofs.Preferences

/-!
# Cooperating platforms

A platform may stop a setup anywhere. On one that cooperates (`Platform.Cooperates`) nothing does: a
setup with a default PIN to replace, or with a PIN from an earlier run, succeeds from every state of
the client, and there is a PIN afterwards (`Bootstrap.run_cooperates`).
-/

namespace Voicemail

open Client

/-- A platform that offers a network, takes what it is asked for, and whose server accepts every
command, whatever went before. -/
structure Platform.Cooperates (p : Platform) : Prop where
  requestNetwork : ∀ past account, ∃ token network rest,
    p.respond past (.requestNetwork account) = .ok ⟨token, .available network :: rest⟩
  openSession : ∀ past network account, p.respond past (.openSession network account) = .ok ()
  execute : ∀ past text, accepts (p.respond past (.execute text)) = true
  closeSession : ∀ past, p.respond past .closeSession = .ok ()
  releaseNetwork : ∀ past token, p.respond past (.releaseNetwork token) = .ok ()
  sendMessage : ∀ past destination port text,
    p.respond past (.sendMessage destination port text) = .ok ()

/-- A platform on which everything succeeds cooperates. -/
theorem Platform.obliging_cooperates : Platform.obliging.Cooperates where
  requestNetwork _ _ := ⟨"token", "network", [], rfl⟩
  openSession _ _ _ := rfl
  execute _ _ := rfl
  closeSession _ := rfl
  releaseNetwork _ _ := rfl
  sendMessage _ _ _ _ := rfl

/-- A table that can write every command of a setup. -/
def CommandTable.WritesAll (table : CommandTable) : Prop :=
  ∀ step : Step, ∃ text, step.text table = .ok text

/-- The server accepts the command of a reply. -/
theorem Client.Reply.accepted {p : Platform} {table : CommandTable} {command : Command}
    {params : List (String × Json)} {history calls : List Call} {r : Except Failure String}
    (h : Reply p table command params history calls r) (hp : p.Cooperates)
    (written : ∃ text, table.render command params = .ok text) :
    ∃ response, r = .ok response ∧ isAccepted response = true := by
  obtain ⟨text, written⟩ := written
  have haccepts := hp.execute history text
  cases answer : p.respond history (.execute text) with
  | error f =>
    rw [answer] at haccepts
    cases haccepts
  | ok response =>
    rw [answer] at haccepts
    exact ⟨response, (h.eq_of_answer written answer).2, haccepts⟩

namespace Bootstrap

variable {p : Platform} {b : Bootstrap} {identifier : String} {spanish pinSet : Bool}
  {c c' : Client} {calls : List Call} {reports : List String} {r : Except Failure Bool}

/-- On a cooperating platform the PIN step leads on, and there is a PIN after it. -/
theorem PinStep.cooperates (h : PinStep p b identifier pinSet c calls reports r c')
    (hp : p.Cooperates) (hw : b.protocol.commands.WritesAll)
    (hd : (Pin.derive? identifier).isSome)
    (hset : pinSet = true → c.preferences.hasOldPin b.account = true) :
    r = .ok true ∧ c'.preferences.hasOldPin b.account = true := by
  cases h with
  | kept set after =>
    rw [after.preferences]
    exact ⟨rfl, hset set⟩
  | underivable set derived after =>
    rw [derived] at hd
    cases hd
  | @unanswered old _ e _ set derived reply after =>
    obtain ⟨response, he, -⟩ := reply.accepted hp (hw (.changePin (b.drawnPin c) old))
    cases he
  | @rejected old response _ _ set derived reply refusal after =>
    obtain ⟨_, he, ha⟩ := reply.accepted hp (hw (.changePin (b.drawnPin c) old))
    cases he
    cases ha.symm.trans refusal
  | replaced set derived reply acceptance after =>
    refine ⟨rfl, ?_⟩
    rw [after.preferences]
    simp [Preferences.hasOldPin, Preferences.oldPin?_setOldPin]

/-- So do the commands of a setup. -/
theorem Commands.cooperates (h : Commands p b identifier spanish pinSet c calls reports r c')
    (hp : p.Cooperates) (hw : b.protocol.commands.WritesAll)
    (hd : (Pin.derive? identifier).isSome)
    (hset : pinSet = true → c.preferences.hasOldPin b.account = true) :
    r = .ok true ∧ c'.preferences.hasOldPin b.account = true := by
  cases h with
  | language language judged after =>
    obtain ⟨response, rfl, ha⟩ :=
      language.accepted hp (hw (.setLanguage (b.protocol.languageCode spanish)))
    simp [verdict, ha] at judged
  | stopped language acceptance after pin ends =>
    have hpin := pin.cooperates hp hw hd (by rwa [after.preferences])
    exact absurd hpin.1 ends
  | tutorial language acceptance after pin tutorial afterwards =>
    obtain ⟨response, rfl, ha⟩ := tutorial.accepted hp (hw .closeTutorial)
    have hpin := pin.cooperates hp hw hd (by rwa [after.preferences])
    rw [afterwards.preferences]
    exact ⟨by simp [verdict, ha, Except.map], hpin.2⟩

/-- So does the session of a setup. -/
theorem Session.cooperates (h : Session p b identifier spanish pinSet c calls reports r c')
    (hp : p.Cooperates) (hw : b.protocol.commands.WritesAll)
    (hd : (Pin.derive? identifier).isSome)
    (hset : pinSet = true → c.preferences.hasOldPin b.account = true) :
    r = .ok true ∧ c'.preferences.hasOldPin b.account = true := by
  obtain ⟨token, network, rest, hnetwork⟩ := hp.requestNetwork c.transcript.calls b.account
  cases h with
  | refused request => cases hnetwork.symm.trans request
  | noNetwork request first =>
    obtain rfl := Except.ok.inj (hnetwork.symm.trans request)
    cases first
  | notOpened request first opening =>
    cases (hp.openSession _ _ _).symm.trans opening
  | worked request first opening before work after =>
    obtain ⟨rfl, hpin⟩ := work.2.cooperates hp hw hd (by rwa [before.preferences])
    rw [after.preferences]
    refine ⟨?_, hpin⟩
    rw [Platform.released, Platform.closed, hp.releaseNetwork, hp.closeSession]
    rfl

/-- On a cooperating platform a setup succeeds if the request for the status does, and there is a
PIN afterwards. -/
theorem run_cooperates (hp : p.Cooperates) (hw : b.protocol.commands.WritesAll)
    (hr : b.reporter.IsQuiet) {asked : List Call → Prop} (ha : b.AsksBy asked)
    (hask : ∀ c, (b.requestStatus c).1 = .ok ()) (hd : (Pin.derive? identifier).isSome)
    (spanish : Bool) (hset : pinSet = true → c.preferences.hasOldPin b.account = true) :
    ∃ c', run p b identifier spanish pinSet c = (.ok .newUserSetupOk, c') ∧
      c'.preferences.hasOldPin b.account = true := by
  obtain ⟨calls, reports, r, c₁, hsession, h⟩ :=
    runSession_visit p identifier spanish pinSet c hr
  obtain ⟨rfl, hpin⟩ := h.cooperates hp hw hd hset
  obtain ⟨r', more, reports', c₂, hconclude, hafter, -⟩ := conclude_ending ha hr (.ok true) c₁
  have hconfirm : (b.confirm c₁).1 = .ok () := by
    rw [confirm, bind_ok (attempt_apply _ c₁), hask]
    rfl
  have hok := (conclude_ok_iff b (.ok true) c₁).2 ⟨rfl, hconfirm⟩
  rw [hconclude] at hok
  subst hok
  refine ⟨c₂, (run_conclude hsession).trans hconclude, ?_⟩
  rwa [hafter.preferences]

end Bootstrap

end Voicemail
