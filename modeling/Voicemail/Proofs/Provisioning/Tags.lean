import Voicemail.Proofs.Assoc
import Voicemail.Proofs.Plugin.Calls
import Voicemail.Proofs.Provisioning.Congruence

/-!
# The tags of a call

While a client provisions, activates or deactivates an account, every record that it writes carries
the account and the name of the protocol, and afterwards the tags are bound that were bound before.
A record carries the tags that are bound unless it has fields of their names that say otherwise
(`LogContext.Agrees`). The records of an attempt have none, and those of the event log have the
account and the protocol of the event, which are those of the attempt. So each step keeps to the
tags that are bound (`Client.KeepsTags`), which is a congruence; binding the tags and restoring what
was bound is what the three calls have in common (`Client.KeepsTags.within`).
-/

namespace Voicemail

open Client

/-! ## Tags of records -/

namespace LogContext

/-- Fields that have an account and a protocol under the names of the tags. -/
structure Names (account protocol : String) (fields : List (String × Json)) : Prop where
  account : fields.lookup "account_id" = some (.str account)
  protocol : fields.lookup "protocol" = some (.str protocol)

/-- Fields that have nothing else than an account and a protocol under the names of the tags. -/
structure Agrees (account protocol : String) (fields : List (String × Json)) : Prop where
  account : ∀ v, ("account_id", v) ∈ fields → v = .str account
  protocol : ∀ v, ("protocol", v) ∈ fields → v = .str protocol

variable {account protocol : String} {fields more : List (String × Json)}

/-- Bound tags have the account and the protocol, whatever was bound before. -/
theorem names_bind (account protocol : String) (c : LogContext) :
    Names account protocol (c.bind account protocol) := by
  constructor
  · show (Assoc.set "protocol" _ (Assoc.set "account_id" _ c)).lookup "account_id" = _
    rw [Assoc.lookup_set, if_neg (by decide), Assoc.lookup_set, if_pos rfl]
  · show (Assoc.set "protocol" _ (Assoc.set "account_id" _ c)).lookup "protocol" = _
    rw [Assoc.lookup_set, if_pos rfl]

/-- Fields put over tags leave them if they agree. -/
theorem Names.setAll (h : Names account protocol fields) (hmore : Agrees account protocol more) :
    Names account protocol (Assoc.setAll fields more) where
  account := Assoc.lookup_setAll_of_agree h.account hmore.account
  protocol := Assoc.lookup_setAll_of_agree h.protocol hmore.protocol

/-- Fields without the names of the tags agree. -/
theorem Agrees.of_not_isShadowed (h : isShadowed fields = false) :
    Agrees account protocol fields := by
  have hnot := List.any_eq_false.1 h
  exact ⟨fun v hv => absurd rfl (hnot _ hv), fun v hv => absurd rfl (hnot _ hv)⟩

/-- Fields that agree do so also with others set over them that agree. -/
theorem Agrees.setAll (h : Agrees account protocol fields) (hmore : Agrees account protocol more) :
    Agrees account protocol (Assoc.setAll fields more) where
  account v hv := (Assoc.mem_setAll hv).elim (h.account v) (hmore.account v)
  protocol v hv := (Assoc.mem_setAll hv).elim (h.protocol v) (hmore.protocol v)

end LogContext

open LogContext

/-- A record carries an account and a protocol. -/
def LogRecord.Carries (account protocol : String) (r : LogRecord) : Prop :=
  Names account protocol r.allFields

/-- Every record among some entries carries an account and a protocol. -/
def Transcript.Carries (account protocol : String) (t : Transcript) : Prop :=
  ∀ r, .record r ∈ t → r.Carries account protocol

namespace Transcript.Carries

variable {account protocol : String} {t u : Transcript}

/-- There is no record among no entries. -/
theorem nil : Carries account protocol [] := fun _ hr => absurd hr List.not_mem_nil

/-- Entries after others carry what both do. -/
theorem append (ht : Carries account protocol t) (hu : Carries account protocol u) :
    Carries account protocol (t ++ u) := fun r hr =>
  (List.mem_append.1 hr).elim (ht r) (hu r)

/-- A record with the tags that are bound. -/
theorem record {r : LogRecord} (hcontext : Names account protocol r.context)
    (hfields : Agrees account protocol r.fields) : Carries account protocol [.record r] := by
  intro r' hr
  cases List.mem_singleton.1 hr
  exact hcontext.setAll hfields

end Transcript.Carries

/-! ## Deliveries -/

/-- Arguments of a hook that tell of an account and a protocol, also in their details. -/
structure Identifies (account protocol : String) (payload : List (String × Json)) : Prop where
  names : Names account protocol payload
  detail : ∀ members, payload.lookup "detail" = some (.obj members) →
    Agrees account protocol members

section
variable {account protocol : String} {context : LogContext} {h : Hook}
  {payload : List (String × Json)}

/-- The event log tags its record as the event is tagged. -/
theorem Member.eventLogRecord_carries {values : List Json} {r : LogRecord} {front : LogFront}
    (hcontext : Names account protocol context) (hpayload : Identifies account protocol payload)
    (ha : Registry.arguments h payload = .ok values)
    (hr : Member.eventLogRecord front context h values = .ok r) :
    Transcript.Carries account protocol [.record r] := by
  have htags (rest : List (String × Json)) (hrest : isShadowed rest = false) :
      Agrees account protocol
        (("account_id", .str account) :: ("protocol", .str protocol) :: rest) := by
    have hagrees : Agrees account protocol rest := .of_not_isShadowed hrest
    refine ⟨fun v hv => ?_, fun v hv => ?_⟩
    · simp only [List.mem_cons, Prod.mk.injEq, true_and, String.reduceEq, false_and, false_or] at hv
      exact hv.elim id (hagrees.account v)
    · simp only [List.mem_cons, Prod.mk.injEq, true_and, String.reduceEq, false_and, false_or] at hv
      exact hv.elim id (hagrees.protocol v)
  cases h with
  | vvmEvent =>
    obtain _ | ⟨haccount, _ | ⟨hprotocol, _ | ⟨hevent, _ | ⟨hdetail, _ | _⟩⟩⟩⟩ :=
      Registry.forall₂_arguments ha
    cases haccount.symm.trans hpayload.names.account
    cases hprotocol.symm.trans hpayload.names.protocol
    rename_i event detail
    simp only [eventLogRecord, eventRecord] at hr
    cases detail with
    | obj members =>
      have hmembers := hpayload.detail members hdetail
      obtain ⟨grave, -, hr⟩ := exists_of_bind_ok hr
      split at hr
      · cases hr
      · cases hr
        exact .record hcontext ((htags _ rfl).setAll hmembers)
    | _ => cases hr
  | postProvision =>
    obtain _ | ⟨haccount, _ | ⟨hprotocol, _ | ⟨haction, _ | ⟨houtcome, _ | _⟩⟩⟩⟩ :=
      Registry.forall₂_arguments ha
    cases haccount.symm.trans hpayload.names.account
    cases hprotocol.symm.trans hpayload.names.protocol
    cases hr
    exact .record hcontext (htags _ rfl)

/-- A record that comes of the call of a member is that of the event log. -/
theorem Member.eventLogRecord_of_receive {values : List Json} {r : LogRecord} {m : Member}
    (hr : .record r ∈ (m.receive context h values).2.1) :
    ∃ front, Member.eventLogRecord front context h values = .ok r := by
  cases m with
  | eventLog front =>
    rw [receive] at hr
    split at hr
    next r' hwritten =>
      obtain rfl := Entry.record.inj (List.mem_singleton.1 hr)
      exact ⟨front, hwritten⟩
    next => cases hr
  | plugin p =>
    rw [receive] at hr
    split at hr <;> simp at hr
  | «class» => cases hr

/-- The records that come of the call of a hook are tagged as its payload is. -/
theorem Registry.callNamed_carries (hcontext : Names account protocol context)
    (hpayload : Identifies account protocol payload) (h : Hook) (r : Registry) :
    Transcript.Carries account protocol (r.callNamed context h.name (.obj payload)).2.1 := by
  rw [callNamed_eq_call, call]
  split
  · exact .nil
  · intro record hrecord
    cases ha : arguments h payload with
    | error =>
      rw [callMembers_of_error ha] at hrecord
      cases hrecord
    | ok values =>
      rw [(callMembers_eq ha _).1] at hrecord
      obtain ⟨⟨name, m⟩, -, hreceived⟩ := List.mem_flatMap.1 hrecord
      obtain ⟨front, hwritten⟩ := Member.eventLogRecord_of_receive hreceived
      exact Member.eventLogRecord_carries hcontext hpayload ha hwritten record (.head _)

/-- So are those that come of its dispatch, whether it is delivered at once or waits. -/
theorem Outbox.dispatch_carries (hcontext : Names account protocol context)
    (hpayload : Identifies account protocol payload) (h : Hook) (key : Option String) (o : Outbox) :
    Transcript.Carries account protocol
      (o.dispatch context h.name (.obj payload) key).2.1 := by
  have hrecord (message : String) :
      Transcript.Carries account protocol [record .debug context message] :=
    .record hcontext (.of_not_isShadowed rfl)
  unfold dispatch
  dsimp only
  split
  · exact .nil
  · unfold deliver
    dsimp only
    generalize hcalled : Registry.callNamed context h.name (.obj payload) _ = called
    obtain ⟨registry, entries, result⟩ := called
    have hentries : Transcript.Carries account protocol entries := by
      have hcarries := Registry.callNamed_carries hcontext hpayload h
        ({ o with journal := o.journal.append h.name (Json.obj payload).text key } :
          Outbox).bus.registry
      rw [hcalled] at hcarries
      exact hcarries
    cases result with
    | ok => exact hentries
    | error e =>
      dsimp only
      split <;> exact hentries.append (hrecord _)

end

/-! ## Steps of a client -/

/-- An operation that leaves the tags as they are, and writes no record without an account and a
protocol while they are bound. -/
def Client.KeepsTags {α : Type} (account protocol : String) (m : ClientM α) : Prop :=
  ∀ c, Names account protocol c.context → (m c).2.context = c.context ∧
    ∃ entries, (m c).2.transcript = c.transcript ++ entries ∧
      Transcript.Carries account protocol entries

namespace Client.KeepsTags

variable {account protocol : String} {α β : Type} {m : ClientM α}

/-- An operation without effect on tags and transcript. -/
theorem of_unseen (h : ∀ c, (m c).2.context = c.context ∧ (m c).2.transcript = c.transcript) :
    KeepsTags account protocol m := fun c _ =>
  ⟨(h c).1, [], by rw [(h c).2, List.append_nil], .nil⟩

/-- An operation that notes entries which carry the account and the protocol. -/
theorem of_noting (h : ∀ c, Names account protocol c.context →
    ∃ entries, (m c).2 = c.noting entries ∧ Transcript.Carries account protocol entries) :
    KeepsTags account protocol m := by
  intro c hc
  obtain ⟨entries, hm, hentries⟩ := h c hc
  rw [hm]
  exact ⟨rfl, entries, rfl, hentries⟩

/-- A sequence keeps the tags if its parts do. -/
theorem bind {f : α → ClientM β} (hm : KeepsTags account protocol m)
    (hf : ∀ a, KeepsTags account protocol (f a)) : KeepsTags account protocol (m >>= f) := by
  intro c hc
  obtain ⟨hcontext, entries, htranscript, hentries⟩ := hm c hc
  rw [bind_apply]
  generalize m c = run at *
  obtain ⟨_ | a, c'⟩ := run
  · exact ⟨hcontext, entries, htranscript, hentries⟩
  · obtain ⟨hcontext', more, htranscript', hmore⟩ := hf a c' (by rwa [hcontext])
    refine ⟨hcontext'.trans hcontext, entries ++ more, ?_, hentries.append hmore⟩
    rw [htranscript', htranscript, List.append_assoc]

/-- A result keeps the tags, -/
theorem pure (a : α) : KeepsTags account protocol (pure a) := of_unseen fun _ => ⟨rfl, rfl⟩

/-- and a look at the client does so if what is done after it does. -/
theorem get_bind {f : Client → ClientM α} (hf : ∀ c, KeepsTags account protocol (f c)) :
    KeepsTags account protocol (get >>= f) := fun c => hf c c

/-- To throw a result away writes nothing. -/
theorem discard (hm : KeepsTags account protocol m) :
    KeepsTags account protocol (discard m : ClientM PUnit) := by
  intro c
  rw [discard_apply]
  exact hm c

/-- A finished message has no fields but the tags that are bound. -/
theorem say (source : LogSource) (level : LogLevel) (message : String) :
    KeepsTags account protocol (say source level message) :=
  of_noting fun c hc => ⟨_, congrArg Prod.snd (say_apply source level message c),
    .record hc (.of_not_isShadowed rfl)⟩

/-- A structured record keeps the tags if no field of it has the name of one. -/
theorem log {fields : List (String × Json)} (hfields : isShadowed fields = false)
    (source : LogSource) (level : LogLevel) (event : String) :
    KeepsTags account protocol (log source level event fields) :=
  of_noting fun c hc => ⟨_, congrArg Prod.snd (log_apply source level event fields c),
    .record hc (.of_not_isShadowed hfields)⟩

/-- A call is no record. -/
theorem perform (p : Platform) (call : Call) :
    KeepsTags account protocol (perform p call) := by
  refine of_noting fun c _ => ⟨_, congrArg Prod.snd (perform_apply p call c), fun r hr => ?_⟩
  cases List.mem_singleton.1 hr

/-- What is stored is said in a finished message. -/
theorem putPreferences (name : String) (values : List (String × Option String)) :
    KeepsTags account protocol (putPreferences name values) := by
  unfold Client.putPreferences
  refine bind (of_unseen fun _ => ⟨rfl, rfl⟩) fun _ => ?_
  split
  · exact pure _
  · exact say _ _ _

/-- To keep the tags is a congruence. -/
theorem isCongruence (p : Platform) (account protocol name : String) :
    IsCongruence p p name fun m _ => KeepsTags account protocol m where
  pure := pure
  lift _ := of_unseen fun _ => ⟨rfl, rfl⟩
  bind hm hf := hm.bind hf
  get_bind hf c := hf c c (.refl name c) c
  attempt hm := hm
  perform call _ := perform p call
  log source _ level event _ hfields := log hfields source level event
  say source _ level message := say source level message
  putPreferences values := putPreferences _ values

/-- Dispatching an event that tells of the account and the protocol keeps the tags. -/
theorem dispatchQuietly {payload : List (String × Json)}
    (hpayload : Identifies account protocol payload) (h : Hook) (key : Option String) :
    KeepsTags account protocol (dispatchQuietly h.name (.obj payload) key) := by
  have hdispatch : KeepsTags account protocol (dispatch h.name (.obj payload) key) := by
    intro c hc
    unfold Client.dispatch
    cases hbus : c.bus with
    | none =>
      rw [onOutbox_none hbus]
      exact ⟨rfl, [], (List.append_nil _).symm, .nil⟩
    | some bus =>
      rw [onOutbox_some hbus]
      exact ⟨rfl, _, rfl, Outbox.dispatch_carries hc hpayload h key _⟩
  refine get_bind fun c => ?_
  split
  · exact pure _
  · refine bind (m := attempt _) hdispatch fun result => ?_
    cases result with
    | ok => exact pure _
    | error => exact bind (say _ _ _) fun _ => pure _

/-- Reporting an event for an account tells of it. -/
theorem report (a : Attempt) (e : EventKind) :
    KeepsTags a.account a.protocol.name ((Reporter.toBus a.protocol a.account).report e) := by
  have hpayload : Identifies a.account a.protocol.name
      (Reporter.payload a.protocol a.account e) := by
    refine ⟨⟨rfl, rfl⟩, fun members hmembers => ?_⟩
    obtain rfl : _ = members := Json.obj.inj (Option.some.inj hmembers)
    exact .of_not_isShadowed rfl
  exact bind (log rfl _ _ _) fun _ => (dispatchQuietly hpayload _ _).discard

/-- So does dispatching the end of an attempt. -/
theorem closing (a : Attempt) (action : Action) (outcome : Outcome) :
    KeepsTags a.account a.protocol.name (Client.dispatchQuietly Hook.postProvision.name
      (.obj (a.closing action outcome)) (some a.account)) := by
  refine dispatchQuietly ⟨⟨rfl, rfl⟩, fun members hmembers => ?_⟩ _ _
  cases hmembers

end Client.KeepsTags

/-! ## Calls -/

/-- What a client is asked for. -/
inductive Service where
  | provisioning (s : StatusResponse)
  | activation
  | deactivation

/-- One call of a client: what it is asked for, for whom, and how its collaborators behave. -/
structure Assignment where
  platform : Platform
  attempt : Attempt
  service : Service

/-- Does what is asked. Provisioning has an outcome. -/
def Assignment.run (a : Assignment) : ClientM (Option Outcome) :=
  match a.service with
  | .provisioning s => return some (← a.attempt.provision a.platform s)
  | .activation => do
    a.attempt.activate a.platform
    return none
  | .deactivation => do
    a.attempt.deactivate a.platform
    return none

/-- The client after calls made one after another, whatever became of each. -/
def Client.afterAssignments (as : List Assignment) (c : Client) : Client :=
  as.foldl (fun c a => (a.run c).2) c

/-- The client has the tags after some work that it had before, and all that it wrote meanwhile
carries an account and a protocol. -/
structure Client.Tagged (account protocol : String) (c c' : Client) : Prop where
  restored : c'.context = c.context
  carried : ∃ entries, c'.transcript = c.transcript ++ entries ∧
    Transcript.Carries account protocol entries

namespace Client.Tagged

variable {account protocol : String} {α β : Type} {m : ClientM α}

/-- Nothing was written. -/
theorem refl (c : Client) : Tagged account protocol c c :=
  ⟨rfl, [], (List.append_nil _).symm, .nil⟩

/-- What keeps to the tags that are bound is tagged where they are bound for it, however the tags
were before. -/
theorem within (hm : KeepsTags account protocol m) (c : Client) :
    Tagged account protocol c (within account protocol m c).2 := by
  rw [within_apply]
  exact ⟨rfl, (hm _ (names_bind account protocol c.context)).2⟩

end Client.Tagged

namespace Attempt

variable (p : Platform) (a : Attempt)

/-- Routing a status keeps the tags of the attempt. -/
theorem route_keepsTags (s : StatusResponse) :
    KeepsTags a.account a.protocol.name (a.route p s) := by
  have hc := KeepsTags.isCongruence p a.account a.protocol.name a.account
  have hvisits := hc.visits (.perform p _) (fun _ => .of_unseen fun _ => ⟨rfl, rfl⟩)
    a.protocol.commands
  have h := a.confuses_self hc hvisits (KeepsTags.report a) (.of_unseen fun _ => ⟨rfl, rfl⟩) s
  exact h.route_congr fun action outcome => (KeepsTags.closing a action outcome).discard

/-- So does sending a message. -/
theorem send_keepsTags (r : Request) : KeepsTags a.account a.protocol.name (a.send p r) :=
  send_congr (KeepsTags.isCongruence p a.account a.protocol.name a.account) r

/-- Provisioning an account is tagged with it and with the protocol, whatever comes of it. -/
theorem provision_tagged (s : StatusResponse) (c : Client) :
    Tagged a.account a.protocol.name c (a.provision p s c).2 := by
  unfold provision
  split
  · exact .within (a.route_keepsTags p s) c
  · exact .refl c

/-- So is activating it, -/
theorem activate_tagged (c : Client) :
    Tagged a.account a.protocol.name c (a.activate p c).2 :=
  .within (.bind (.log rfl _ _ _) fun _ => a.send_keepsTags p _) c

/-- and so is deactivating it, whether the protocol has a message for that or not. -/
theorem deactivate_tagged (c : Client) :
    Tagged a.account a.protocol.name c (a.deactivate p c).2 := by
  refine .within ?_ c
  split
  · exact a.send_keepsTags p _
  · exact .log rfl _ _ _

end Attempt

/-- A call leaves the client as the operation does that it is for. -/
theorem Assignment.run_snd (a : Assignment) (c : Client) :
    (a.run c).2 = match a.service with
      | .provisioning s => (a.attempt.provision a.platform s c).2
      | .activation => (a.attempt.activate a.platform c).2
      | .deactivation => (a.attempt.deactivate a.platform c).2 := by
  obtain ⟨p, attempt, service⟩ := a
  cases service with
  | provisioning s => exact congrArg Prod.snd (bind_pure_apply (attempt.provision p s) some c)
  | activation => exact congrArg Prod.snd (bind_pure_apply (attempt.activate p) (fun _ => none) c)
  | deactivation =>
    exact congrArg Prod.snd (bind_pure_apply (attempt.deactivate p) (fun _ => none) c)

/-- A call is tagged with its own account and protocol. -/
theorem Assignment.run_tagged (a : Assignment) (c : Client) :
    Tagged a.attempt.account a.attempt.protocol.name c (a.run c).2 := by
  rw [a.run_snd]
  cases a.service with
  | provisioning s => exact a.attempt.provision_tagged a.platform s c
  | activation => exact a.attempt.activate_tagged a.platform c
  | deactivation => exact a.attempt.deactivate_tagged a.platform c

/-- After any calls, each of which may have returned or failed, the tags are those from the
beginning, and the next call is tagged with its own account and protocol. -/
theorem assignments_tagged (done : List Assignment) (next : Assignment) (c : Client) :
    (afterAssignments done c).context = c.context ∧
      Tagged next.attempt.account next.attempt.protocol.name (afterAssignments done c)
        (next.run (afterAssignments done c)).2 := by
  refine ⟨?_, next.run_tagged _⟩
  induction done generalizing c with
  | nil => rfl
  | cons a rest ih => exact (ih (a.run c).2).trans (a.run_tagged c).restored

end Voicemail
