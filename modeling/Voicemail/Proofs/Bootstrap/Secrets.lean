import Mathlib.Data.List.Forall2
import Voicemail.Proofs.Bootstrap.Plan
import Voicemail.Proofs.Client.Congruence
import Voicemail.Proofs.Preferences

/-!
# Secrets

An account has two secrets: the password in its status response and the PIN that its setup draws.
Both are stored, and each has a call that hands it over: the status goes to the subscriber as it
came, and the new PIN to the server. Where the collaborators are discreet about that
(`Platform.IsDiscreet`), their answers tell nothing about the secrets. Clients may then differ in
what is secret (`Client.SameButSecrets`) without anything else coming of it, from each step of an
attempt (`Client.KeepsSecrets.isCongruence`) to the change of the PIN.
-/

namespace Voicemail

/-! ## Secrets in store -/

/-- Responses that differ at most in the value of the password. -/
structure StatusResponse.SameButPassword (s₁ s₂ : StatusResponse) : Prop where
  provisioningStatus : s₁.provisioningStatus = s₂.provisioningStatus
  returnCode : s₁.returnCode = s₂.returnCode
  subscriberIdentifier : s₁.subscriberIdentifier = s₂.subscriberIdentifier
  rawFields : List.Forall₂
    (fun field₁ field₂ => field₁.1 = field₂.1 ∧ (field₁.1 = passwordField ∨ field₁.2 = field₂.2))
    s₁.rawFields s₂.rawFields

namespace Preferences

/-- The keys under which secrets are stored. -/
def secretKeys : List String := [StatusResponse.passwordField, pinKey]

/-- Values for a key that are the same, or two texts for the key of a secret. -/
def SameButSecret (key : String) (value₁ value₂ : Option String) : Prop :=
  value₁ = value₂ ∨ key ∈ secretKeys ∧ value₁.isSome ∧ value₂.isSome

/-- Preferences in which the same is stored but for the secrets of an account. -/
def SameButSecrets (account : String) (p₁ p₂ : Preferences) : Prop :=
  ∀ account' key, p₁.find? account' key = p₂.find? account' key ∨
    account' = account ∧ ∃ value₁ value₂, SameButSecret key value₁ value₂ ∧
      p₁.find? account' key = some value₁ ∧ p₂.find? account' key = some value₂

namespace SameButSecrets

variable {account key : String} {p₁ p₂ : Preferences}
  {values₁ values₂ : List (String × Option String)}

/-- Preferences differ from themselves in nothing. -/
theorem refl (account : String) (p : Preferences) : SameButSecrets account p p :=
  fun _ _ => .inl rfl

/-- Storing the same value in both, or a secret in each, makes no other difference. -/
theorem put (h : SameButSecrets account p₁ p₂) {value₁ value₂ : Option String}
    (hvalue : SameButSecret key value₁ value₂) :
    SameButSecrets account (p₁.put account key value₁) (p₂.put account key value₂) := by
  intro account' key'
  rw [find?_put, find?_put]
  by_cases hkey : account' = account ∧ key' = key
  · obtain ⟨rfl, rfl⟩ := hkey
    exact .inr ⟨rfl, value₁, value₂, hvalue, if_pos ⟨rfl, rfl⟩, if_pos ⟨rfl, rfl⟩⟩
  · rw [if_neg hkey, if_neg hkey]
    exact h account' key'

/-- Nor does storing several values one after another. -/
theorem putMany (h : SameButSecrets account p₁ p₂)
    (hvalues : List.Forall₂ (fun v₁ v₂ => v₁.1 = v₂.1 ∧ SameButSecret v₁.1 v₁.2 v₂.2)
      values₁ values₂) :
    SameButSecrets account (p₁.putMany account values₁) (p₂.putMany account values₂) := by
  induction hvalues generalizing p₁ p₂ with
  | nil => exact h
  | @cons v₁ v₂ _ _ hvalue _ ih =>
    obtain ⟨key₁, value₁⟩ := v₁
    obtain ⟨key₂, value₂⟩ := v₂
    obtain ⟨rfl, hvalue⟩ : key₁ = key₂ ∧ SameButSecret key₁ value₁ value₂ := hvalue
    exact ih (h.put hvalue)

/-- What is no secret reads the same. -/
theorem get?_eq (h : SameButSecrets account p₁ p₂) (hkey : key ∉ secretKeys) :
    p₁.get? account key = p₂.get? account key := by
  unfold get?
  obtain hsame | ⟨-, value₁, value₂, hsame | ⟨hmem, -⟩, hfind₁, hfind₂⟩ := h account key
  · rw [hsame]
  · rw [hfind₁, hfind₂, hsame]
  · exact absurd hmem hkey

/-- That there is a secret is none. -/
theorem isSome_get? (h : SameButSecrets account p₁ p₂) (key : String) :
    (p₁.get? account key).isSome = (p₂.get? account key).isSome := by
  unfold get?
  obtain hsame | ⟨-, value₁, value₂, hsame | ⟨-, hsome₁, hsome₂⟩, hfind₁, hfind₂⟩ := h account key
  · rw [hsame]
  · rw [hfind₁, hfind₂, hsame]
  · rw [hfind₁, hfind₂]
    exact hsome₁.trans hsome₂.symm

end SameButSecrets

end Preferences

/-! ## Secrets in calls -/

/-- Calls that differ at most in the new PIN of a change of the PIN, or in the password of a status
that is handed over. -/
inductive Call.SameButSecrets (table : CommandTable) : Call → Call → Prop
  | same (call : Call) : SameButSecrets table call call
  | changePin {new₁ new₂ old text₁ text₂ : String}
      (written₁ : (Step.changePin new₁ old).text table = .ok text₁)
      (written₂ : (Step.changePin new₂ old).text table = .ok text₂) :
      SameButSecrets table (.execute text₁) (.execute text₂)
  | subscribe {s₁ s₂ : StatusResponse} (h : s₁.SameButPassword s₂) (context : LogContext) :
      SameButSecrets table (.subscribe s₁ context) (.subscribe s₂ context)

/-- Entries of transcripts that differ at most in the secrets of a call. -/
inductive Entry.SameButSecrets (table : CommandTable) : Entry → Entry → Prop
  | same (e : Entry) : SameButSecrets table e e
  | call {call₁ call₂ : Call} (h : call₁.SameButSecrets table call₂) :
      SameButSecrets table (.call call₁) (.call call₂)

/-- Transcripts that differ at most in the secrets of their calls. -/
abbrev Transcript.SameButSecrets (table : CommandTable) (t₁ t₂ : Transcript) : Prop :=
  List.Forall₂ (Entry.SameButSecrets table) t₁ t₂

namespace Transcript.SameButSecrets

variable {table : CommandTable} {t₁ t₂ : Transcript}

/-- A transcript differs from itself in nothing. -/
theorem refl (table : CommandTable) (t : Transcript) : t.SameButSecrets table t :=
  List.forall₂_same.2 fun e _ => .same e

/-- The calls differ in their secrets at most. -/
theorem calls (h : t₁.SameButSecrets table t₂) :
    List.Forall₂ (Call.SameButSecrets table) t₁.calls t₂.calls := by
  refine List.rel_filterMap (fun e₁ e₂ he => ?_) h
  cases he with
  | same => cases e₁.call? with
    | none => exact .none
    | some call => exact .some (.same call)
  | call hcall => exact .some hcall

/-- The records show no secret. -/
theorem records (h : t₁.SameButSecrets table t₂) : t₁.records = t₂.records := by
  refine List.forall₂_eq_eq_eq ▸ List.rel_filterMap (fun e₁ e₂ he => ?_) h
  cases he with
  | same => cases e₁.record? with
    | none => exact .none
    | some r => exact .some rfl
  | call => exact .none

/-- Nor do the calls of plugins. -/
theorem hooks (h : t₁.SameButSecrets table t₂) :
    t₁.filter Entry.isHook = t₂.filter Entry.isHook := by
  induction h with
  | nil => rfl
  | cons he _ ih =>
    cases he with
    | same => rw [List.filter_cons, List.filter_cons, ih]
    | call => exact ih

end Transcript.SameButSecrets

/-- A platform whose answers do not depend on the secrets in calls. -/
structure Platform.IsDiscreet (p : Platform) (table : CommandTable) : Prop where
  /-- What was said about secrets before does not count. -/
  history {past₁ past₂ : List Call} (h : List.Forall₂ (Call.SameButSecrets table) past₁ past₂)
    (call : Call) : p.respond past₁ call = p.respond past₂ call
  /-- The answer to a change of the PIN does not depend on the new one, -/
  changePin (past : List Call) {new₁ new₂ old text₁ text₂ : String}
    (written₁ : (Step.changePin new₁ old).text table = .ok text₁)
    (written₂ : (Step.changePin new₂ old).text table = .ok text₂) :
    p.respond past (.execute text₁) = p.respond past (.execute text₂)
  /-- and that of the subscriber not on the password. -/
  subscribe (past : List Call) {s₁ s₂ : StatusResponse} (h : s₁.SameButPassword s₂)
    (context : LogContext) :
    p.respond past (.subscribe s₁ context) = p.respond past (.subscribe s₂ context)

/-- Whether a change of the PIN can be written does not depend on the new one. -/
def CommandTable.MasksPin (table : CommandTable) : Prop :=
  ∀ (new₁ new₂ old : String) (e : CommandError),
    (Step.changePin new₁ old).text table = .error e →
      (Step.changePin new₂ old).text table = .error e

namespace Client

/-! ## Clients with secrets -/

variable {table : CommandTable} {account : String}

/-- Clients that differ at most in the secrets of an account, and in the draws to come. -/
structure SameButSecrets (table : CommandTable) (account : String) (c₁ c₂ : Client) : Prop where
  settings : c₁.settings = c₂.settings
  systemLocale : c₁.systemLocale = c₂.systemLocale
  preferences : c₁.preferences.SameButSecrets account c₂.preferences
  journal : c₁.journal = c₂.journal
  bus : c₁.bus = c₂.bus
  context : c₁.context = c₂.context
  session : c₁.session = c₂.session
  transcript : c₁.transcript.SameButSecrets table c₂.transcript
  front : c₁.front = c₂.front
  inMemory : c₁.inMemory = c₂.inMemory

namespace SameButSecrets

variable {c₁ c₂ : Client}

/-- Clients look the same to an attempt. -/
theorem shared (h : SameButSecrets table account c₁ c₂) : Shared account c₁ c₂ where
  provisioning := by rw [h.settings]
  sms := by rw [h.settings]
  systemLocale := h.systemLocale
  context := h.context
  session := h.session
  hasOldPin := h.preferences.isSome_get? Preferences.pinKey
  pinLength := h.preferences.get?_eq (by decide)

/-- Entries that differ in secrets at most may be added. -/
theorem noting (h : SameButSecrets table account c₁ c₂) {entries₁ entries₂ : Transcript}
    (hentries : entries₁.SameButSecrets table entries₂) :
    SameButSecrets table account (c₁.noting entries₁) (c₂.noting entries₂) :=
  { h with transcript := List.rel_append h.transcript hentries }

/-- The same entries are no secret. -/
theorem noting_same (h : SameButSecrets table account c₁ c₂) (entries : Transcript) :
    SameButSecrets table account (c₁.noting entries) (c₂.noting entries) :=
  h.noting (.refl table entries)

end SameButSecrets

/-! ## Operations that keep secrets -/

/-- Two runs tell nothing about secrets, and leave open a session as it should be. -/
structure RunsAlike {α : Type} (table : CommandTable) (account : String)
    (sessions : Option CommandTable → Prop) (run₁ run₂ : Except Failure α × Client) : Prop where
  result : run₁.1 = run₂.1
  client : SameButSecrets table account run₁.2 run₂.2
  session : sessions run₁.2.session

/-- Operations of which clients that differ in secrets make the same, in certain sessions. -/
def KeepsSecrets {α : Type} (table : CommandTable) (account : String)
    (sessions : Option CommandTable → Prop) (m₁ m₂ : ClientM α) : Prop :=
  ∀ c₁ c₂, SameButSecrets table account c₁ c₂ → sessions c₁.session →
    RunsAlike table account sessions (m₁ c₁) (m₂ c₂)

namespace KeepsSecrets

variable {sessions : Option CommandTable → Prop} {p : Platform} {α β : Type}

/-- A step that leaves the session as it is. -/
theorem of_step {m₁ m₂ : ClientM α}
    (h : ∀ c₁ c₂, SameButSecrets table account c₁ c₂ →
      (m₁ c₁).1 = (m₂ c₂).1 ∧ SameButSecrets table account (m₁ c₁).2 (m₂ c₂).2)
    (hsession : ∀ c, (m₁ c).2.session = c.session) :
    KeepsSecrets table account sessions m₁ m₂ := fun c₁ c₂ hsame hs =>
  ⟨(h c₁ c₂ hsame).1, (h c₁ c₂ hsame).2, hsession c₁ ▸ hs⟩

/-- A value or failure that is already there keeps secrets, -/
theorem lift (r : Except Failure α) :
    KeepsSecrets table account sessions (liftM r : ClientM α) (liftM r) :=
  of_step (fun _ _ h => ⟨rfl, h⟩) fun _ => rfl

/-- and so does a result. -/
theorem pure (a : α) : KeepsSecrets table account sessions (pure a : ClientM α) (pure a) :=
  lift (.ok a)

/-- A sequence keeps secrets if its parts do: the second part goes by a result that shows none. -/
theorem bind {m₁ m₂ : ClientM α} {f₁ f₂ : α → ClientM β}
    (hm : KeepsSecrets table account sessions m₁ m₂)
    (hf : ∀ a, KeepsSecrets table account sessions (f₁ a) (f₂ a)) :
    KeepsSecrets table account sessions (m₁ >>= f₁) (m₂ >>= f₂) := by
  intro c₁ c₂ hsame hs
  obtain ⟨hresult, hclient, hsession⟩ := hm c₁ c₂ hsame hs
  rw [bind_apply, bind_apply]
  generalize m₁ c₁ = run₁ at *
  generalize m₂ c₂ = run₂ at *
  obtain ⟨r, c₁'⟩ := run₁
  obtain ⟨r₂, c₂'⟩ := run₂
  obtain rfl : r = r₂ := hresult
  cases r with
  | error e => exact ⟨rfl, hclient, hsession⟩
  | ok a => exact hf a c₁' c₂' hclient hsession

/-- A look at the client keeps secrets if what is done after it does, whatever the secrets are. -/
theorem get_bind {f₁ f₂ : Client → ClientM α}
    (hf : ∀ c₁ c₂, SameButSecrets table account c₁ c₂ →
      KeepsSecrets table account sessions (f₁ c₁) (f₂ c₂)) :
    KeepsSecrets table account sessions (get >>= f₁) (get >>= f₂) := by
  intro c₁ c₂ hsame hs
  rw [bind_ok (get_apply c₁), bind_ok (get_apply c₂)]
  exact hf c₁ c₂ hsame c₁ c₂ hsame hs

/-- What became of an operation that keeps secrets shows none. -/
theorem attempt {m₁ m₂ : ClientM α} (hm : KeepsSecrets table account sessions m₁ m₂) :
    KeepsSecrets table account sessions (attempt m₁) (attempt m₂) := fun c₁ c₂ hsame hs =>
  have h := hm c₁ c₂ hsame hs
  ⟨congrArg Except.ok h.result, h.client, h.session⟩

/-- A record is the same if what it shows is. -/
theorem log (source : LogSource) (level : LogLevel) (event : String)
    (fields : List (String × Json)) :
    KeepsSecrets table account sessions (log source level event fields)
      (log source level event fields) := by
  refine of_step (fun c₁ c₂ h => ⟨rfl, ?_⟩) fun _ => rfl
  rw [log_apply, log_apply, h.context]
  exact h.noting_same _

/-- A finished message is the same for both. -/
theorem say (source : LogSource) (level : LogLevel) (message : String) :
    KeepsSecrets table account sessions (say source level message) (say source level message) := by
  refine of_step (fun c₁ c₂ h => ⟨rfl, ?_⟩) fun _ => rfl
  rw [say_apply, say_apply, h.context]
  exact h.noting_same _

/-- Texts that are stored are shown by their number only. -/
theorem putPreferences {values₁ values₂ : List (String × Option String)}
    (h : List.Forall₂ (fun v₁ v₂ => v₁.1 = v₂.1 ∧ Preferences.SameButSecret v₁.1 v₁.2 v₂.2)
      values₁ values₂) :
    KeepsSecrets table account sessions (putPreferences account values₁)
      (putPreferences account values₂) := by
  refine bind (of_step (fun c₁ c₂ hsame => ⟨rfl, ?_⟩) fun _ => rfl) fun _ => ?_
  · exact { hsame with preferences := hsame.preferences.putMany h }
  · rw [h.length_eq]
    cases h with
    | nil => exact pure ()
    | cons => exact say _ _ _

/-! ## Events -/

/-- The outbox knows no secret. -/
theorem onOutbox (member : String)
    (f : LogContext → Outbox → Outbox × Transcript × Except Failure α) :
    KeepsSecrets table account sessions (onOutbox member f) (onOutbox member f) := by
  intro c₁ c₂ hsame hs
  cases hbus : c₁.bus with
  | none =>
    rw [onOutbox_none hbus, onOutbox_none (hsame.bus.symm.trans hbus)]
    exact ⟨rfl, hsame, hs⟩
  | some bus =>
    rw [onOutbox_some hbus, onOutbox_some (hsame.bus.symm.trans hbus), ← hsame.context,
      ← hsame.journal]
    exact ⟨rfl, { hsame.noting_same _ with journal := rfl, bus := rfl }, hs⟩

/-- Dispatching an event keeps secrets, whether it is delivered or ends in a warning. -/
theorem dispatchQuietly (hook : String) (payload : Json) (account' : Option String) :
    KeepsSecrets table account sessions (dispatchQuietly hook payload account')
      (dispatchQuietly hook payload account') := by
  refine get_bind fun c₁ c₂ hsame => ?_
  rw [hsame.bus]
  split
  · exact pure _
  · refine bind (attempt (onOutbox _ _)) fun result => ?_
    cases result with
    | ok => exact pure _
    | error => exact bind (say _ _ _) fun _ => pure _

/-- A result that is thrown away shows nothing. -/
theorem discard {m₁ m₂ : ClientM α} (hm : KeepsSecrets table account sessions m₁ m₂) :
    KeepsSecrets table account sessions (discard m₁ : ClientM PUnit) (discard m₂) :=
  bind hm fun _ => pure _

/-- A report tells which event it is of, and no secret. -/
theorem report (protocol : Protocol) (account' : String) (e : EventKind) :
    KeepsSecrets table account sessions ((Reporter.toBus protocol account').report e)
      ((Reporter.toBus protocol account').report e) :=
  bind (log _ _ _ _) fun _ => discard (dispatchQuietly _ _ _)

/-- What keeps secrets does so with the tags of an account too. -/
theorem within {m₁ m₂ : ClientM α} (account' protocol : String)
    (hm : KeepsSecrets table account sessions m₁ m₂) :
    KeepsSecrets table account sessions (within account' protocol m₁)
      (within account' protocol m₂) := by
  intro c₁ c₂ hsame hs
  rw [within_apply, within_apply, ← hsame.context]
  obtain ⟨hresult, hclient, hsession⟩ := hm { c₁ with context := c₁.context.bind account' protocol }
    { c₂ with context := c₁.context.bind account' protocol } { hsame with context := rfl } hs
  exact ⟨hresult, { hclient with context := rfl }, hsession⟩

/-! ## Discreet collaborators -/

section
variable (hp : p.IsDiscreet table)
include hp

/-- A call without secrets is answered alike, since the calls before it differ in secrets only. -/
theorem perform (call : Call) :
    KeepsSecrets table account sessions (perform p call) (perform p call) := by
  refine of_step (fun c₁ c₂ h => ?_) fun c => ?_
  · rw [perform_apply, perform_apply, hp.history h.transcript.calls call]
    exact ⟨rfl, h.noting_same _⟩
  · rw [perform_apply]
    rfl

/-- The subscriber does not look at the password. -/
theorem subscribe {s₁ s₂ : StatusResponse} (hs : s₁.SameButPassword s₂) (context : LogContext) :
    KeepsSecrets table account sessions (Client.perform p (.subscribe s₁ context))
      (Client.perform p (.subscribe s₂ context)) := by
  refine of_step (fun c₁ c₂ h => ?_) fun c => ?_
  · rw [perform_apply, perform_apply, hp.history h.transcript.calls, hp.subscribe _ hs]
    exact ⟨rfl, h.noting (.cons (.call (.subscribe hs context)) .nil)⟩
  · rw [perform_apply]
    rfl

/-- The server does not look at the new PIN. -/
theorem sendPin {new₁ new₂ old text₁ text₂ : String}
    (written₁ : (Step.changePin new₁ old).text table = .ok text₁)
    (written₂ : (Step.changePin new₂ old).text table = .ok text₂) :
    KeepsSecrets table account sessions (Client.perform p (.execute text₁))
      (Client.perform p (.execute text₂)) := by
  refine of_step (fun c₁ c₂ h => ?_) fun c => ?_
  · rw [perform_apply, perform_apply, hp.history h.transcript.calls,
      hp.changePin _ written₁ written₂]
    exact ⟨rfl, h.noting (.cons (.call (.changePin written₁ written₂)) .nil)⟩
  · rw [perform_apply]
    rfl

/-- To keep secrets is a congruence. -/
theorem isCongruence (sessions : Option CommandTable → Prop) :
    IsCongruence p p account (KeepsSecrets table account sessions) where
  pure := pure
  lift := lift
  bind := bind
  get_bind hf := get_bind fun c₁ c₂ h => hf c₁ c₂ h.shared
  attempt := attempt
  perform call _ := perform hp call
  log source _ level event fields _ := log source level event fields
  say source _ := say source
  putPreferences _ := putPreferences (List.forall₂_same.2 fun _ _ => ⟨rfl, .inl rfl⟩)

/-- In a session the table in use is known. -/
theorem visits : IsCongruence.Visits p p table account (KeepsSecrets table account fun _ => True)
    (KeepsSecrets table account (· = some table)) := by
  intro α limit body₁ body₂ hbody
  have h : IsCongruence p p account (KeepsSecrets table account fun _ => True) := isCongruence hp _
  have hclose := h.closeSession fun c₁ c₂ hsame _ => ⟨rfl, { hsame with session := rfl }, trivial⟩
  refine h.withNetwork (perform hp _) fun network => ?_
  simp only [openSession, bind_assoc]
  refine h.bind (perform hp _) fun _ c₁ c₂ hsame _ => ?_
  rw [bind_ok (modify_apply _ c₁), bind_ok (modify_apply _ c₂), ensuring_eq, ensuring_eq,
    bind_ok (attempt_apply (body₁ network) _), bind_ok (attempt_apply (body₂ network) _)]
  have hrun := hbody network { c₁ with session := some table } { c₂ with session := some table }
    { hsame with session := rfl } rfl
  rw [hrun.result]
  exact h.bind hclose (fun _ => h.lift _) _ _ hrun.client trivial

/-- The change of the PIN keeps the new one secret. -/
theorem changePin (hmasks : table.MasksPin) (new₁ new₂ old : String) :
    KeepsSecrets table account (· = some table) (Client.changePin p new₁ old)
      (Client.changePin p new₂ old) := by
  have h : IsCongruence p p account (KeepsSecrets table account (· = some table)) :=
    isCongruence hp _
  refine h.changePin_of_execute fun c₁ c₂ hsame hs => ?_
  rw [execute, execute, bind_ok (get_apply c₁), bind_ok (get_apply c₂), ← hsame.session, hs]
  dsimp only
  cases written₁ : table.render .changeTuiPassword
      [("new_pin", .str new₁), ("old_pin", .str old)] with
  | error e =>
    have hfailed : table.render .changeTuiPassword
        [("new_pin", .str new₂), ("old_pin", .str old)] = .error e :=
      hmasks new₁ new₂ old e written₁
    rw [hfailed]
    exact h.throw _ c₁ c₂ hsame hs
  | ok text₁ =>
    cases written₂ : table.render .changeTuiPassword
        [("new_pin", .str new₂), ("old_pin", .str old)] with
    | error e => cases (hmasks new₂ new₁ old e written₂).symm.trans written₁
    | ok text₂ => exact sendPin hp written₁ written₂ c₁ c₂ hsame hs

end

end KeepsSecrets

end Client

end Voicemail
