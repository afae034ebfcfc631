import Voicemail.Proofs.Bootstrap.Secrets
import Voicemail.Proofs.Provisioning.Congruence
import Voicemail.Proofs.Session.Visit

/-!
# Secrets do not leak

An attempt stores the password of its account and draws a new PIN, and on a discreet platform
neither of them can be learned from anything else that it does (`Attempt.provision_secret`): the
result, the log, the journal and the calls of plugins are the same whatever the secrets are. To keep
secrets is a congruence, so all there is to say is what becomes of the draw and of the status.
-/

namespace Voicemail

open Client

/-- Every protocol can write every change of the PIN. -/
theorem Protocol.masksPin {protocol : Protocol} (h : protocol ∈ Protocol.all) :
    protocol.commands.MasksPin := by
  have hwritten (new old : String) :
      ∃ text, (Step.changePin new old).text protocol.commands = .ok text := by
    simp only [all, List.mem_cons, List.not_mem_nil, or_false] at h
    obtain rfl | rfl := h <;> exact ⟨_, rfl⟩
  intro new₁ new₂ old e hfailed
  obtain ⟨text, hwritten⟩ := hwritten new₁ old
  cases hwritten.symm.trans hfailed

variable {p : Platform} {table : CommandTable}

/-- A setup conceals which PIN it draws. -/
theorem Bootstrap.conceals_secrets (b : Bootstrap) (hp : p.IsDiscreet table)
    (hmasks : table.MasksPin) :
    b.Conceals p p (KeepsSecrets table b.account (· = some table)) fun _ _ => True where
  newPin hf c₁ c₂ hsame hs := by
    rw [bind_ok (b.newPin_apply c₁), bind_ok (b.newPin_apply c₂)]
    exact hf _ _ trivial { c₁ with draws := c₁.draws.tail } { c₂ with draws := c₂.draws.tail }
      { hsame with } hs
  changePin _ old := .changePin hp hmasks _ _ old
  setOldPin _ := .putPreferences (.cons ⟨rfl, .inr ⟨.tail _ (.head _), rfl, rfl⟩⟩ .nil)

namespace Attempt

variable {a : Attempt} {s₁ s₂ : StatusResponse}

/-- The fields of two status responses are stored alike. -/
theorem putStatus_keepsSecrets (h : s₁.SameButPassword s₂) (sessions : Option CommandTable → Prop) :
    KeepsSecrets table a.account sessions (putStatus a.account s₁.rawFields)
      (putStatus a.account s₂.rawFields) := by
  refine .putPreferences ?_
  rw [List.forall₂_map_left_iff, List.forall₂_map_right_iff]
  refine h.rawFields.imp fun field₁ field₂ hfield => ⟨hfield.1, ?_⟩
  obtain hpassword | hvalue := hfield.2
  · exact .inr ⟨hpassword ▸ .head _, rfl, rfl⟩
  · exact .inl (congrArg some hvalue)

/-- Attempts for status responses that differ in the password are not told apart. -/
theorem confuses_secrets (hp : p.IsDiscreet a.protocol.commands)
    (hmasks : a.protocol.commands.MasksPin) (hs : s₁.SameButPassword s₂) :
    a.Confuses p p (KeepsSecrets a.protocol.commands a.account fun _ => True)
      (KeepsSecrets a.protocol.commands a.account (· = some a.protocol.commands)) s₁ s₂ where
  outside := KeepsSecrets.isCongruence hp _
  inside := KeepsSecrets.isCongruence hp _
  visits := .visits hp
  report e := .report _ _ e
  reportInside e := .report _ _ e
  pins := ⟨fun _ _ => True, fun settings => (a.bootstrap p settings).conceals_secrets hp hmasks⟩
  status := hs.provisioningStatus
  returnCode := hs.returnCode
  identifier := hs.subscriberIdentifier
  putStatus := putStatus_keepsSecrets hs _
  subscribe := .subscribe hp hs

/-- An attempt keeps the secrets of its account, whatever clients it is made by. -/
theorem provision_keepsSecrets (hp : p.IsDiscreet a.protocol.commands)
    (hmasks : a.protocol.commands.MasksPin) (hs : s₁.SameButPassword s₂) :
    KeepsSecrets a.protocol.commands a.account (fun _ => True) (a.provision p s₁)
      (a.provision p s₂) := by
  have hroute := (confuses_secrets hp hmasks hs).route_congr fun _ _ =>
    .discard (.dispatchQuietly _ _ _)
  have hwithin := hroute.within a.account a.protocol.name
  unfold provision
  split
  · exact hwithin
  · exact .bind (.lift (.error _)) fun _ => hwithin

/-- Nobody but the server and the subscriber, and who reads the secrets themselves in the
preferences, can tell two runs apart. -/
structure SameOutside {α : Type} (table : CommandTable) (account : String)
    (run₁ run₂ : Except Failure α × Client) : Prop where
  result : run₁.1 = run₂.1
  records : run₁.2.transcript.records = run₂.2.transcript.records
  hooks : run₁.2.transcript.filter Entry.isHook = run₂.2.transcript.filter Entry.isHook
  journal : run₁.2.journal = run₂.2.journal
  /-- Everything else is the same too, but for secrets in calls and in the preferences. -/
  client : SameButSecrets table account run₁.2 run₂.2

/-- Attempts that differ in the draws and in the password of the status give the same outcome or
failure, write the same records, make the same calls of plugins and leave the same journal, if the
platform is discreet. Their other calls differ in the new PIN and in the status handed to the
subscriber at most, and their preferences in the values of the secrets. -/
theorem provision_secret {p : Platform} {a : Attempt} (hprotocol : a.protocol ∈ Protocol.all)
    (hp : p.IsDiscreet a.protocol.commands) {s₁ s₂ : StatusResponse} (hs : s₁.SameButPassword s₂)
    (c : Client) (draws₁ draws₂ : List Nat) :
    SameOutside a.protocol.commands a.account (a.provision p s₁ { c with draws := draws₁ })
      (a.provision p s₂ { c with draws := draws₂ }) := by
  have hsame : SameButSecrets a.protocol.commands a.account { c with draws := draws₁ }
      { c with draws := draws₂ } :=
    ⟨rfl, rfl, .refl _ _, rfl, rfl, rfl, rfl, .refl _ _, rfl, rfl⟩
  have hrun := provision_keepsSecrets hp (Protocol.masksPin hprotocol) hs _ _ hsame trivial
  exact ⟨hrun.result, hrun.client.transcript.records, hrun.client.transcript.hooks,
    hrun.client.journal, hrun.client⟩

/-- The status of a new subscriber with a password. -/
def newcomer (password : String) : StatusResponse :=
  .ofFields [("st", "N"), ("u", "2065551234@x"), ("pw", password)]

/-- A client that has done nothing yet, with a draw. -/
def drawing (draw : Nat) : Client := .new { root := ⟨.root, []⟩, configPath := none } none [draw]

/-- Two drawn PINs and two passwords, on a platform that looks at neither: both PINs are stored. -/
theorem provision_secret_obliging :
    Protocol.vvm3 ∈ Protocol.all ∧ Platform.obliging.IsDiscreet Protocol.vvm3.commands ∧
      (newcomer "hunter2").SameButPassword (newcomer "letmein") ∧
      SameOutside Protocol.vvm3.commands "a"
        (provision .obliging ⟨"a", .vvm3, none⟩ (newcomer "hunter2") (drawing 1234567890))
        (provision .obliging ⟨"a", .vvm3, none⟩ (newcomer "letmein") (drawing 9876543210)) ∧
      ((provision .obliging ⟨"a", .vvm3, none⟩ (newcomer "hunter2")
        (drawing 1234567890)).2.preferences.oldPin? "a" = some "123456") ∧
      ((provision .obliging ⟨"a", .vvm3, none⟩ (newcomer "letmein")
        (drawing 9876543210)).2.preferences.oldPin? "a" = some "987654") :=
  have hprotocol : Protocol.vvm3 ∈ Protocol.all := .tail _ (.head _)
  have hp : Platform.obliging.IsDiscreet Protocol.vvm3.commands :=
    ⟨fun _ _ => rfl, fun _ _ _ _ _ _ _ _ => rfl, fun _ _ _ _ _ => rfl⟩
  have hs : (newcomer "hunter2").SameButPassword (newcomer "letmein") :=
    ⟨rfl, rfl, rfl, .cons ⟨rfl, .inr rfl⟩ <| .cons ⟨rfl, .inr rfl⟩ <|
      .cons ⟨rfl, .inl rfl⟩ .nil⟩
  ⟨hprotocol, hp, hs,
    provision_secret (a := ⟨"a", .vvm3, none⟩) hprotocol hp hs (drawing 0) [1234567890]
      [9876543210],
    by decide, by decide⟩

end Attempt

end Voicemail
