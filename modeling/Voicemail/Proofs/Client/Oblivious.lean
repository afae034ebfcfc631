import Voicemail.Proofs.Client.After
import Voicemail.Proofs.Journal.Ledger

/-!
# What does not depend on the plugins

Two clients are alike (`Client.Alike`) if they differ in nothing but where their events go: in the
bus with its plugins, in the journal, and in what was written to the log. An operation is oblivious
(`Client.Oblivious`) if alike clients cannot be told apart by it: it gives the same result, leaves
the clients alike, and journals the same events where there is a bus. Every step of a client is
oblivious, the dispatch of an event too as long as nobody looks at its result, and what is built
from oblivious operations is oblivious.
-/

namespace Voicemail

/-! ## The events of a journal -/

/-- The events of a journal, oldest first. -/
def Journal.events (j : Journal) : List JournaledEvent := j.rows.map Row.journaled

/-- An event that is appended is the last one. -/
theorem Journal.events_append (j : Journal) (hook payload : String) (account : Option String) :
    (j.append hook payload account).events = j.events ++ [⟨hook, payload, account⟩] := by
  simp [events, append, Row.journaled]

/-- A change of a row that keeps its event changes no event. -/
theorem Journal.events_update (j : Journal) (id : Nat) {f : Row → Row}
    (h : ∀ r, (f r).journaled = r.journaled) : (j.update id f).events = j.events := by
  rw [events, update, List.map_map]
  refine List.map_congr_left fun r _ => ?_
  show (if r.id = id then f r else r).journaled = r.journaled
  split
  · exact h r
  · rfl

/-- A delivery changes no event of the journal. -/
theorem Outbox.deliver_events (context : LogContext) (d : Delivery) (o : Outbox) :
    (o.deliver context d).1.journal.events = o.journal.events := by
  unfold deliver
  generalize o.bus.registry.callNamed context d.hook d.payload = called
  obtain ⟨registry, entries, result⟩ := called
  cases result with
  | ok => exact o.journal.events_update d.id fun _ => rfl
  | error e =>
    dsimp only
    split
    · exact o.journal.events_update d.id fun _ => rfl
    · rfl

/-- A dispatch appends its event, whatever becomes of its delivery. -/
theorem Outbox.dispatch_events (context : LogContext) (hook : String) (payload : Json)
    (account : Option String) (o : Outbox) :
    (o.dispatch context hook payload account).1.journal.events =
      o.journal.events ++ [⟨hook, payload.text, account⟩] := by
  unfold dispatch
  dsimp only
  split
  · exact o.journal.events_append hook payload.text account
  · exact (deliver_events ..).trans (o.journal.events_append hook payload.text account)

namespace Client

/-! ## Alike clients -/

/-- Clients that differ in nothing but where their events go, and in what was logged. -/
structure Alike (c₁ c₂ : Client) : Prop where
  provisioning : c₁.settings.provisioning = c₂.settings.provisioning
  sms : c₁.settings.sms = c₂.settings.sms
  systemLocale : c₁.systemLocale = c₂.systemLocale
  preferences : c₁.preferences = c₂.preferences
  draws : c₁.draws = c₂.draws
  context : c₁.context = c₂.context
  session : c₁.session = c₂.session
  calls : c₁.transcript.calls = c₂.transcript.calls

/-- Some events were journaled between two states of a client, if it has a bus. -/
structure Journals (events : List JournaledEvent) (c c' : Client) : Prop where
  bus : c'.bus.isSome = c.bus.isSome
  events : c'.journal.events = c.journal.events ++ if c.bus.isSome then events else []

/-- Alike clients were not told apart: the same came of their runs, they are alike afterwards, and
where both have a bus they journaled the same events. -/
structure SameRun {α : Type} (c₁ c₂ : Client) (run₁ run₂ : Except Failure α × Client) : Prop where
  result : run₁.1 = run₂.1
  alike : Alike run₁.2 run₂.2
  journals : ∃ events, Journals events c₁ run₁.2 ∧ Journals events c₂ run₂.2

/-- An operation that does not tell alike clients apart. -/
def Oblivious {α : Type} (m : ClientM α) : Prop :=
  ∀ c₁ c₂, Alike c₁ c₂ → SameRun c₁ c₂ (m c₁) (m c₂)

/-- Clients are alike after entries with the same calls. -/
theorem Alike.noting {c₁ c₂ : Client} (h : Alike c₁ c₂) {entries₁ entries₂ : Transcript}
    (hcalls : entries₁.calls = entries₂.calls) :
    Alike (c₁.noting entries₁) (c₂.noting entries₂) :=
  { h with
    calls := by
      rw [Client.noting, Client.noting, Transcript.calls_append, Transcript.calls_append, h.calls,
        hcalls] }

/-- Clients are alike after steps with the same calls. -/
theorem Alike.after {c₁ c₂ c₁' c₂' : Client} (h : Alike c₁ c₂) {calls : List Call}
    {reports₁ reports₂ : List String} (h₁ : After c₁ calls reports₁ c₁')
    (h₂ : After c₂ calls reports₂ c₂') : Alike c₁' c₂' where
  provisioning := by rw [h₁.settings, h₂.settings, h.provisioning]
  sms := by rw [h₁.settings, h₂.settings, h.sms]
  systemLocale := by rw [h₁.systemLocale, h₂.systemLocale, h.systemLocale]
  preferences := by rw [h₁.preferences, h₂.preferences, h.preferences]
  draws := by rw [h₁.draws, h₂.draws, h.draws]
  context := by rw [h₁.context, h₂.context, h.context]
  session := by rw [h₁.session, h₂.session, h.session]
  calls := by rw [h₁.calls, h₂.calls, h.calls]

namespace Journals

variable {c c' c'' : Client} {events more : List JournaledEvent}

/-- A step that touches neither the journal nor the bus journals nothing. -/
theorem of_outbox (hjournal : c'.journal = c.journal) (hbus : c'.bus = c.bus) :
    Journals [] c c' :=
  ⟨by rw [hbus], by rw [hjournal, ite_self, List.append_nil]⟩

/-- A client that does nothing journals nothing. -/
theorem refl (c : Client) : Journals [] c c := of_outbox rfl rfl

/-- What was journaled first comes before what was journaled then. -/
theorem trans (h : Journals events c c') (h' : Journals more c' c'') :
    Journals (events ++ more) c c'' where
  bus := h'.bus.trans h.bus
  events := by
    rw [h'.events, h.events, h.bus]
    split
    · exact List.append_assoc ..
    · simp

end Journals

/-! ## Oblivious operations -/

namespace Oblivious

variable {α β : Type}

/-- A step without a look at the client, that touches neither the journal nor the bus. -/
theorem of_step {m : ClientM α}
    (halike : ∀ c₁ c₂, Alike c₁ c₂ → (m c₁).1 = (m c₂).1 ∧ Alike (m c₁).2 (m c₂).2)
    (houtbox : ∀ c, (m c).2.journal = c.journal ∧ (m c).2.bus = c.bus) : Oblivious m :=
  fun c₁ c₂ h => ⟨(halike c₁ c₂ h).1, (halike c₁ c₂ h).2, [],
    .of_outbox (houtbox c₁).1 (houtbox c₁).2, .of_outbox (houtbox c₂).1 (houtbox c₂).2⟩

/-- A result is the same for all clients, -/
theorem pure {a : α} : Oblivious (pure a : ClientM α) :=
  of_step (fun _ _ h => ⟨rfl, h⟩) fun _ => ⟨rfl, rfl⟩

/-- and so is a failure, -/
theorem throw {e : Failure} : Oblivious (throw e : ClientM α) :=
  of_step (fun _ _ h => ⟨rfl, h⟩) fun _ => ⟨rfl, rfl⟩

/-- or what is one of both. -/
theorem lift {r : Except Failure α} : Oblivious (liftM r : ClientM α) :=
  of_step (fun _ _ h => ⟨rfl, h⟩) fun _ => ⟨rfl, rfl⟩

/-- A sequence of oblivious operations is oblivious. -/
theorem bind {m : ClientM α} {f : α → ClientM β} (hm : Oblivious m) (hf : ∀ a, Oblivious (f a)) :
    Oblivious (m >>= f) := by
  intro c₁ c₂ h
  obtain ⟨hresult, halike, events, hjournals₁, hjournals₂⟩ := hm c₁ c₂ h
  rw [bind_apply, bind_apply]
  generalize m c₁ = run₁ at *
  generalize m c₂ = run₂ at *
  obtain ⟨r, c₁'⟩ := run₁
  obtain ⟨r₂, c₂'⟩ := run₂
  obtain rfl : r = r₂ := hresult
  cases r with
  | error e => exact ⟨rfl, halike, events, hjournals₁, hjournals₂⟩
  | ok a =>
    obtain ⟨hresult', halike', more, hmore₁, hmore₂⟩ := hf a c₁' c₂' halike
    exact ⟨hresult', halike', events ++ more, hjournals₁.trans hmore₁, hjournals₂.trans hmore₂⟩

/-- An operation may look at the client if it does the same on alike ones. -/
theorem get_bind {f : Client → ClientM α} (hf : ∀ c, Oblivious (f c))
    (hsame : ∀ c₁ c₂, Alike c₁ c₂ → f c₁ = f c₂) : Oblivious (get >>= f) := by
  intro c₁ c₂ h
  rw [bind_ok (get_apply c₁), bind_ok (get_apply c₂), hsame c₁ c₂ h]
  exact hf c₂ c₁ c₂ h

/-- A change that keeps clients alike and touches neither the journal nor the bus. -/
theorem modify {f : Client → Client} (halike : ∀ c₁ c₂, Alike c₁ c₂ → Alike (f c₁) (f c₂))
    (houtbox : ∀ c, (f c).journal = c.journal ∧ (f c).bus = c.bus) :
    Oblivious (modify f : ClientM PUnit) :=
  of_step (fun c₁ c₂ h => ⟨rfl, halike c₁ c₂ h⟩) houtbox

/-- A record may show what it likes: it is no call. -/
theorem log {source : LogSource} {level : LogLevel} {event : String}
    {fields : List (String × Json)} : Oblivious (log source level event fields) :=
  of_step (fun _ _ h => ⟨rfl, h.noting rfl⟩) fun _ => ⟨rfl, rfl⟩

/-- A message may say what it likes: it is no call. -/
theorem say {source : LogSource} {level : LogLevel} {message : String} :
    Oblivious (say source level message) :=
  of_step (fun _ _ h => ⟨rfl, h.noting rfl⟩) fun _ => ⟨rfl, rfl⟩

/-- A collaborator answers by the calls before, which are the same. -/
theorem perform {p : Platform} {call : Call} : Oblivious (perform p call) := by
  refine of_step (fun c₁ c₂ h => ?_) fun c => ?_
  · rw [perform_apply, perform_apply, h.calls]
    exact ⟨rfl, h.noting rfl⟩
  · rw [perform_apply]
    exact ⟨rfl, rfl⟩

/-- What became of an oblivious operation is the same as well. -/
theorem attempt {m : ClientM α} (hm : Oblivious m) : Oblivious (attempt m) := by
  intro c₁ c₂ h
  obtain ⟨hresult, halike, hjournals⟩ := hm c₁ c₂ h
  exact ⟨congrArg Except.ok hresult, halike, hjournals⟩

/-- Alike clients are so with the tags of an account too. -/
theorem within {m : ClientM α} {account protocol : String} (hm : Oblivious m) :
    Oblivious (within account protocol m) := by
  intro c₁ c₂ h
  have hbound : Alike { c₁ with context := c₁.context.bind account protocol }
      { c₂ with context := c₂.context.bind account protocol } :=
    { h with context := by rw [h.context] }
  obtain ⟨hresult, halike, events, hjournals₁, hjournals₂⟩ := hm _ _ hbound
  refine ⟨hresult, { halike with context := h.context }, events, ?_, ?_⟩
  · exact ⟨hjournals₁.bus, hjournals₁.events⟩
  · exact ⟨hjournals₂.bus, hjournals₂.events⟩

/-- The draws are the same. -/
theorem draw : Oblivious draw :=
  of_step (fun _ _ h => ⟨congrArg (Except.ok <| List.headD · 0) h.draws,
    { h with draws := congrArg List.tail h.draws }⟩) fun _ => ⟨rfl, rfl⟩

/-- The preferences are the same. -/
theorem modifyPreferences {f : Preferences → Preferences} : Oblivious (modifyPreferences f) :=
  modify (fun _ _ h => { h with preferences := congrArg f h.preferences }) fun _ => ⟨rfl, rfl⟩

/-- Texts are stored by both. -/
theorem putPreferences {account : String} {values : List (String × Option String)} :
    Oblivious (putPreferences account values) := by
  unfold Client.putPreferences
  refine modifyPreferences.bind fun _ => ?_
  split
  · exact pure
  · exact say

end Oblivious

/-! ## Events -/

/-- A warning about a failed dispatch is all that a service makes of it. -/
theorem warnOnFailure_outbox (hook : String) (m : ClientM Nat) (c : Client) :
    (warnOnFailure hook m c).2.journal = (m c).2.journal ∧
      (warnOnFailure hook m c).2.bus = (m c).2.bus := by
  rw [warnOnFailure, bind_ok (attempt_apply m c)]
  cases (m c).1 with
  | ok => exact ⟨rfl, rfl⟩
  | error => exact ⟨rfl, rfl⟩

/-- A dispatch journals its event where there is a bus, and nothing where there is none. -/
theorem Journals.dispatchQuietly (hook : String) (payload : Json) (account : Option String)
    (c : Client) :
    Journals [⟨hook, payload.text, account⟩] c
      (Client.dispatchQuietly hook payload account c).2 := by
  simp only [Client.dispatchQuietly, bind_ok (get_apply c)]
  cases hb : c.bus with
  | none =>
    refine ⟨rfl, ?_⟩
    rw [hb]
    exact (List.append_nil _).symm
  | some bus =>
    have hdispatch := onOutbox_some hb "dispatch" fun context =>
      Outbox.dispatch context hook payload account
    obtain ⟨hjournal, hbus⟩ :=
      warnOnFailure_outbox hook (Client.dispatch hook payload account) c
    simp only [Option.isNone_some, Bool.false_eq_true, if_false]
    refine ⟨?_, ?_⟩
    · rw [hbus, Client.dispatch, hdispatch, hb]
      rfl
    · rw [hjournal, Client.dispatch, hdispatch, hb]
      exact Outbox.dispatch_events c.context hook payload account ⟨c.journal, bus⟩

/-- The dispatch of an event is oblivious if its warnings are not looked at. -/
theorem Oblivious.dispatchQuietly {hook : String} {payload : Json} {account : Option String} :
    Oblivious (discard (dispatchQuietly hook payload account) : ClientM PUnit) := by
  intro c₁ c₂ h
  have hjournals₁ := Journals.dispatchQuietly hook payload account c₁
  have hjournals₂ := Journals.dispatchQuietly hook payload account c₂
  obtain ⟨_, c₁', hrun₁, hafter₁⟩ := After.dispatchQuietly hook payload account c₁
  obtain ⟨_, c₂', hrun₂, hafter₂⟩ := After.dispatchQuietly hook payload account c₂
  rw [discard_apply, discard_apply, hrun₁, hrun₂]
  rw [hrun₁] at hjournals₁
  rw [hrun₂] at hjournals₂
  exact ⟨rfl, h.after hafter₁ hafter₂, _, hjournals₁, hjournals₂⟩

end Client

/-- Reporting to the client's own bus is oblivious. -/
theorem Reporter.toBus_oblivious (protocol : Protocol) (account : String) (e : EventKind) :
    Client.Oblivious ((Reporter.toBus protocol account).report e) :=
  .bind .log fun _ => .dispatchQuietly

end Voicemail
