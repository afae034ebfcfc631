import Voicemail.Proofs.Installation.Arrivals
import Voicemail.Proofs.Json.Storable

/-!
# Who sees an event

An `Announcement` is a run of an installation in which an event is dispatched, between whatever
other operations. Each trial of the event calls the plugins that are then registered for its hook,
the last registered first, up to and including the first that fails, and completes the row exactly
if none of them fails; and over all trials no plugin is called more often than the greatest number
of retries says (`Notice.Told`). An event under a name that stands for nothing is completed without
a call (`Announcement.Unheard`). `told_iff` says what this needs: a greatest number of retries that
the journal can compare with, a journal that is kept in a file, and a payload without the name by
which a hook call knows its own subject.
-/

namespace Voicemail

/-! ## Announcements -/

/-- A run of a fresh installation in which an event is dispatched. -/
structure Announcement (M : Int) (durable : Bool) (hook : String) (payload : Json) where
  start : Installation
  fresh : start.IsFresh M durable
  keyed : start.IsKeyed
  /-- What happens before the dispatch. -/
  earlier : List Operation
  /-- There is a bus to dispatch the event on. -/
  connected : (start.after earlier).client.bus.isSome
  account : Option String
  /-- What happens after the dispatch. -/
  later : List Operation

namespace Announcement

variable {M : Int} {durable : Bool} {hook : String} {payload : Json}

/-- Everything that happens. -/
def operations (a : Announcement M durable hook payload) : List Operation :=
  a.earlier ++ .dispatch hook payload a.account :: a.later

/-- The row of the event. -/
def id (a : Announcement M durable hook payload) : Nat :=
  (a.start.after a.earlier).client.journal.nextId

/-- The trials of the event. -/
def trials (a : Announcement M durable hook payload) : List Trial :=
  (a.start.trials a.operations).filter (·.delivery.id = a.id)

/-- The row of the event stays in the journal: that is kept in a file, or the store is not opened
again. -/
def IsKept (a : Announcement M durable hook payload) : Prop :=
  durable = true ∨ ∀ op ∈ a.operations, op.reopens = false

/-- No trial calls a plugin, and each completes the row. -/
def Unheard (a : Announcement M durable hook payload) : Prop :=
  ∀ t ∈ a.trials, t.call.2.1 = [] ∧ t.after.journal.statusOf a.id = .completed

end Announcement

/-- An event that plugins can be told of: a payload with all arguments of its hook. -/
structure Notice where
  hook : Hook
  members : List (String × Json)
  /-- The payload is a value that some text writes. -/
  written : ∃ s, Json.read? s = some (.obj members)
  complete : ∀ name ∈ hook.argumentNames, name ∈ Assoc.keys members

/-- A name that is no hook, and none of the other members of the relay. -/
structure Stranger where
  name : String
  noHook : Hook.ofName? name = none
  noMember : Relay.member? name = none

namespace Notice

/-- The payload of a notice. -/
def payload (e : Notice) : Json := .obj e.members

/-- The arguments that plugins are called with. -/
def values (e : Notice) : List Json :=
  e.hook.argumentNames.map fun name => (e.members.lookup name).getD .null

/-- The plugins that a trial calls. -/
def called (e : Notice) (t : Trial) : List (String × Member) :=
  t.before.bus.registry.reached t.context e.hook e.values

/-- What a trial of a notice does. -/
structure TellsAll (e : Notice) (id : Nat) (t : Trial) : Prop where
  /-- It delivers the event as it was dispatched. -/
  delivery : t.delivery = ⟨id, e.hook.name, e.payload⟩
  /-- It does what the plugins do that it calls, and nothing else. -/
  calls : t.call.2.1 =
    (e.called t).flatMap fun (_, m) => (m.receive t.context e.hook e.values).2.1
  /-- It calls none of them twice. -/
  once : ((e.called t).map (·.1)).Nodup
  /-- It completes the row exactly if none of them fails. -/
  completed : t.after.journal.statusOf id = .completed ↔
    ∀ x ∈ e.called t, x.2.fails t.context e.hook e.values = false
  /-- If it does, it has called every plugin for the hook. -/
  everyone : t.after.journal.statusOf id = .completed →
    e.called t = t.before.bus.registry.audience e.hook

/-- What the plugins come to know of a notice. -/
structure Told {M : Int} {durable : Bool} (e : Notice)
    (a : Announcement M durable e.hook.name e.payload) : Prop where
  /-- Plugins are called in trials only. -/
  hooks : (a.start.after a.operations).client.transcript.hooks =
    a.start.client.transcript.hooks ++ (a.start.trials a.operations).flatMap Trial.hooks
  trials : ∀ t ∈ a.trials, e.TellsAll a.id t
  /-- In the end the row is completed exactly if no plugin has failed in one of the trials. -/
  completed : (a.start.after a.operations).client.journal.statusOf a.id = .completed ↔
    ∃ t ∈ a.trials, ∀ x ∈ e.called t, x.2.fails t.context e.hook e.values = false
  /-- No plugin is called too often. -/
  atMost : ∀ name, (((a.trials.flatMap e.called).map (·.1)).count name : Int) ≤ Journal.limit M

/-- The payload of a notice can be stored. -/
theorem isStorable (e : Notice) : e.payload.IsStorable := Json.isStorable_iff.2 e.written

/-- A payload that has the arguments gives them. -/
theorem arguments_eq (e : Notice) : Registry.arguments e.hook e.members = .ok e.values := by
  refine mapM_ok fun name hname => ?_
  obtain ⟨p, hp, rfl⟩ := List.mem_map.1 (e.complete name hname)
  obtain ⟨v, hv⟩ := Option.isSome_iff_exists.1
    (List.lookup_isSome_iff.2 ⟨p, hp, beq_self_eq_true p.1⟩)
  simp only [hv, Option.getD_some]

end Notice

/-! ## What every announcement does -/

namespace Announcement

variable {M : Int} {durable : Bool} {hook : String} {payload : Json}

/-- The event is dispatched. -/
theorem mem_arrivals (a : Announcement M durable hook payload) :
    (⟨a.id, hook, payload⟩ : Delivery) ∈ a.start.arrivals a.operations := by
  obtain ⟨bus, hb⟩ := Option.isSome_iff_exists.1 a.connected
  rw [operations, Installation.arrivals_append, Installation.arrivals]
  refine List.mem_append_right _ (List.mem_append_left _ ?_)
  simp only [Operation.arrivals, Client.onBus, hb]
  exact .head _

/-- Every trial of the event is a delivery of it, as it was dispatched or as it is read back. -/
theorem tracked (a : Announcement M durable hook payload) (hkept : a.IsKept) {t : Trial}
    (ht : t ∈ a.trials) :
    ∃ past, t.Tracked M durable past ∧
      (t.delivery = ⟨a.id, hook, payload⟩ ∨
        t.delivery = Delivery.reread ⟨a.id, hook, payload⟩) := by
  obtain ⟨ht, hid⟩ := List.mem_filter.1 ht
  have hid : t.delivery.id = a.id := by simpa using hid
  obtain ⟨htrials, hafter⟩ := (a.fresh.tracks a.keyed).after a.operations hkept
  obtain ⟨past, hpast, htracked⟩ := htrials t ht
  obtain ⟨d, hd, heq⟩ := htracked.delivery
  have hd_id : d.id = a.id := by
    rcases heq with heq | heq
    · rw [← heq, hid]
    · rw [← hid, heq]
      rfl
  obtain rfl := eq_of_numbered hafter.journal.numbered (hpast hd) a.mem_arrivals hd_id
  exact ⟨past, htracked, heq⟩

/-- A payload is read back as it was, so every trial delivers the same. -/
theorem trial_delivery (hp : payload.Fits false) (a : Announcement M durable hook payload)
    (hkept : a.IsKept) {t : Trial} (ht : t ∈ a.trials) : t.delivery = ⟨a.id, hook, payload⟩ := by
  obtain ⟨past, -, heq | heq⟩ := a.tracked hkept ht
  · exact heq
  · rw [heq, Delivery.reread_eq hp]

/-- An event under a name that stands for nothing is completed without a call. -/
theorem unheard {x : Stranger} (a : Announcement M true x.name payload) : a.Unheard := by
  intro t ht
  obtain ⟨past, htracked, heq⟩ := a.tracked (.inl rfl) ht
  have hcall : t.call = (t.before.bus.registry, [], .ok ()) := by
    have hhook : t.delivery.hook = x.name := by rcases heq with heq | heq <;> rw [heq]; rfl
    rw [Trial.call, hhook]
    exact Registry.callNamed_unknown x.noHook x.noMember ..
  have hid : t.delivery.id = a.id := by rcases heq with heq | heq <;> rw [heq]; rfl
  have hcompleted := htracked.completes (by rw [hcall]; rfl)
  rw [hid] at hcompleted
  exact ⟨by rw [hcall], hcompleted⟩

/-- Where failures can be recorded, the row of an event is the account of its trials. -/
theorem lived (hM : Journal.fits M) (a : Announcement M true hook payload) :
    ∃ r ∈ (a.start.after a.operations).client.journal.rows, r.id = a.id ∧
      r.Lived M (a.trials.map fun t => !t.call.2.2.isOk) := by
  obtain ⟨hready, hlawful⟩ := Site.start_ready a.fresh
  obtain ⟨hsteps, -⟩ := Site.run_steps hM hready hlawful a.operations
  have hlawful := hsteps.lawful hlawful
  obtain ⟨hmade, hafter⟩ := Site.made_run a.operations (Site.start a.start)
  obtain ⟨r, hr, hid⟩ := ((a.fresh.tracks a.keyed).after a.operations
    (.inl rfl)).2.journal.exists_row a.mem_arrivals
  have hmem : r ∈ ((Site.start a.start).run a.operations).ledger.journal.rows := by
    rw [Site.ledger, hafter]
    exact hr
  have hlived := hlawful.lived r hmem
  have hmade : ((Site.start a.start).run a.operations).ledger.made =
      (a.start.trials a.operations).map Trial.delivered := hmade
  rw [hid, hmade, Ledger.outcomes, List.filter_map, List.map_map] at hlived
  have houtcomes : a.trials.map ((·.failed) ∘ Trial.delivered) =
      a.trials.map fun t => !t.call.2.2.isOk :=
    List.map_congr_left fun t _ => t.delivered_failed
  exact ⟨r, hr, hid, houtcomes ▸ hlived⟩

/-- An event has no more trials than the limit says. -/
theorem length_trials_le (hM : Journal.fits M) (a : Announcement M true hook payload) :
    (a.trials.length : Int) ≤ Journal.limit M := by
  obtain ⟨r, -, -, hlived⟩ := a.lived hM
  simpa only [List.length_map] using hlived.length_le

/-- In the end its row is completed exactly if one of its trials did not fail. -/
theorem statusOf_eq_completed (hM : Journal.fits M) (a : Announcement M true hook payload) :
    (a.start.after a.operations).client.journal.statusOf a.id = .completed ↔
      ∃ t ∈ a.trials, t.call.2.2.isOk = true := by
  obtain ⟨r, hr, hid, hlived⟩ := a.lived hM
  have hids := ((a.fresh.tracks a.keyed).after a.operations (.inl rfl)).2.journal.nodup
  have hcompleted := hlived.completed_iff
  rw [← Journal.statusOf_of_mem hids hr, hid] at hcompleted
  rw [hcompleted, List.mem_map]
  simp

/-- A plugin that no trial calls twice is called no more often than there are trials. -/
theorem count_flatMap_le {called : Trial → List (String × Member)} {ts : List Trial}
    (h : ∀ t ∈ ts, ((called t).map (·.1)).Nodup) (name : String) :
    ((ts.flatMap called).map (·.1)).count name ≤ ts.length := by
  induction ts with
  | nil => exact Nat.zero_le _
  | cons t rest ih =>
    have hone := List.nodup_iff_count_le_one.1 (h t (.head _)) name
    have hrest := ih fun t ht => h t (.tail _ ht)
    rw [List.flatMap_cons, List.map_append, List.count_append, List.length_cons]
    omega

end Announcement

namespace Notice

variable {M : Int} {e : Notice} {t : Trial}

/-- A payload that can be stored is read back as it was, so every trial delivers the same. -/
theorem trial_delivery (a : Announcement M true e.hook.name e.payload) (ht : t ∈ a.trials) :
    t.delivery = ⟨a.id, e.hook.name, e.payload⟩ :=
  Announcement.trial_delivery e.isStorable.unlimited a (.inl rfl) ht

/-- A trial of a notice does what the plugins do that it calls, and fails if one of them does. -/
theorem trial_call (hs : Assoc.contains Misuse.subject e.members = false)
    (a : Announcement M true e.hook.name e.payload) (ht : t ∈ a.trials) :
    t.call.2.1 =
        (e.called t).flatMap (fun (_, m) => (m.receive t.context e.hook e.values).2.1) ∧
      (t.call.2.2.isOk = true ↔
        ∀ x ∈ e.called t, x.2.fails t.context e.hook e.values = false) := by
  have hcall : t.call =
      t.before.bus.registry.callNamed t.context e.hook.name (.obj e.members) := by
    rw [Trial.call, trial_delivery a ht]
    rfl
  rw [hcall]
  exact Registry.callNamed_hook e.arguments_eq hs t.context t.before.bus.registry

/-- A trial of a notice tells every plugin, up to the first that fails. -/
theorem tellsAll (hM : Journal.fits M) (hs : Assoc.contains Misuse.subject e.members = false)
    (a : Announcement M true e.hook.name e.payload) (ht : t ∈ a.trials) : e.TellsAll a.id t := by
  obtain ⟨past, htracked, -⟩ := a.tracked (.inl rfl) ht
  have hdelivery := trial_delivery a ht
  obtain ⟨hentries, hok⟩ := trial_call hs a ht
  have hcompleted := htracked.completes_iff hM
  rw [hdelivery, hok] at hcompleted
  exact ⟨hdelivery, hentries, htracked.before.keyed.reached .., hcompleted,
    fun h => upToFirst_eq_self (hcompleted.1 h)⟩

/-- Plugins come to know of a notice as they should. -/
theorem told (hM : Journal.fits M) (hs : Assoc.contains Misuse.subject e.members = false)
    (a : Announcement M true e.hook.name e.payload) : e.Told a where
  hooks := Installation.after_hooks ..
  trials _ ht := tellsAll hM hs a ht
  completed := by
    rw [a.statusOf_eq_completed hM]
    exact exists_congr fun t => and_congr_right fun ht => (trial_call hs a ht).2
  atMost name := by
    have hcount := Announcement.count_flatMap_le
      (fun t (ht : t ∈ a.trials) => (tellsAll hM hs a ht).once) name
    have hlength := a.length_trials_le hM
    omega

end Notice

/-! ## What it needs -/

/-- An installation at the root has no plugins, so none has the name of another. -/
theorem Installation.atRoot_isKeyed (M : Int) (durable : Bool) :
    (Installation.atRoot M durable).IsKeyed := by
  intro bus hb
  cases hb
  exact Registry.isKeyed_empty .bare

namespace Announcement

variable {M : Int} {durable : Bool} {hook : String} {payload : Json}

/-- An event that a worker delivers where there are no plugins. -/
def byWorker (M : Int) (durable : Bool) (hook : String) (payload : Json) :
    Announcement M durable hook payload where
  start := .atRoot M durable
  fresh := Installation.atRoot_isFresh M durable
  keyed := Installation.atRoot_isKeyed M durable
  earlier := []
  connected := rfl
  account := none
  later := [.work]

/-- The trial in which the worker delivers it. -/
def workerTrial (M : Int) (durable : Bool) (hook : String) (payload : Json) : Trial where
  context := .empty
  byWorker := true
  before := ⟨Journal.empty.append hook payload.text none,
    ⟨.empty, M, some [⟨1, hook, payload⟩], durable⟩⟩
  delivery := ⟨1, hook, payload⟩

/-- The worker's is the only trial of the event. -/
theorem trials_byWorker (M : Int) (durable : Bool) (hook : String) (payload : Json) :
    (byWorker M durable hook payload).trials = [workerTrial M durable hook payload] := rfl

/-- Where the worker does not reach the journal, or the hook call fails, the row is not
completed. -/
theorem workerTrial_statusOf
    (h : durable = false ∨ (workerTrial M durable hook payload).call.2.2.isOk = false) :
    (workerTrial M durable hook payload).after.journal.statusOf 1 ≠ .completed := by
  have hrow : ∃ r ∈ (Journal.empty.append hook payload.text none).rows, r.id = 1 :=
    ⟨_, .head _, rfl⟩
  have hpending : (Journal.empty.append hook payload.text none).statusOf 1 ≠ .completed := nofun
  rw [Trial.after_eq _ fun _ => rfl]
  dsimp only
  split
  next hreaches =>
    have hdurable : durable = true := hreaches
    have hfails := h.resolve_left (by simp [hdurable])
    cases hout : (workerTrial M durable hook payload).before.outcome
        (workerTrial M durable hook payload).context
        (workerTrial M durable hook payload).delivery with
    | none =>
      rw [(Trial.outcome_eq_none _).1 hout] at hfails
      cases hfails
    | some error =>
      cases hM : Journal.fits M with
      | true => exact Journal.statusOf_record_some hM (d := ⟨1, hook, payload⟩) hrow error
      | false =>
        have hrecords : Journal.records M (some error) = false := hM
        show ((Journal.empty.append hook payload.text none).record M ⟨1, hook, payload⟩
          (some error)).statusOf 1 ≠ _
        rwa [Journal.record, hrecords]
  next => exact hpending

end Announcement

/-- What is expected of a notice needs a worker that reaches the journal, and a payload that hook
calls take. -/
theorem Notice.not_told_byWorker {M : Int} {durable : Bool} {e : Notice}
    (h : durable = false ∨ Assoc.contains Misuse.subject e.members = true) :
    ¬e.Told (Announcement.byWorker M durable e.hook.name e.payload) := by
  intro htold
  have htells := htold.trials (Announcement.workerTrial M durable e.hook.name e.payload)
    (by rw [Announcement.trials_byWorker]; exact .head _)
  refine Announcement.workerTrial_statusOf (h.imp_right fun hs => ?_)
    (htells.completed.2 (nofun : ∀ x ∈ ([] : List (String × Member)), _))
  exact congrArg (·.2.2.isOk) (Registry.callNamed_subject .empty e.hook hs .empty)

namespace Notice

variable {M : Int} {context : LogContext}

/-- An outbox that owes a notice, and cannot record that its plugin fails at it. -/
def repeating (e : Notice) (M : Int) (calls : Nat) : Outbox where
  journal := Journal.empty.append e.hook.name e.payload.text none
  bus := {
    registry := { members := [(Site.failing.className, .plugin { Site.failing with calls })] }
    maxRetries := M, waiting := none }

/-- The delivery that it owes. -/
def first (e : Notice) : Delivery := ⟨1, e.hook.name, e.payload⟩

/-- The plugin of the outbox is called with the notice, and fails however often it was called. -/
theorem repeating_call (e : Notice) (hs : Assoc.contains Misuse.subject e.members = false)
    (M : Int) (calls : Nat) (context : LogContext) :
    (e.repeating M calls).bus.registry.callNamed context e.hook.name e.payload =
      ((e.repeating M (calls + 1)).bus.registry, [.hook "p" e.hook e.values],
        .error (.fault ⟨.runtime, "boom"⟩)) := by
  have himpl : Member.implements e.hook (.plugin { Site.failing with calls }) = true := by
    cases e.hook <;> rfl
  rw [payload, Registry.callNamed_eq_call, Registry.call, hs, if_neg Bool.false_ne_true]
  simp only [repeating, List.reverse_singleton, Registry.callMembers, himpl, if_true,
    e.arguments_eq]
  rfl

/-- The outbox stays so, but for the count of the plugin's calls. -/
theorem repeating_deliver (hM : Journal.fits M = false) (e : Notice)
    (hs : Assoc.contains Misuse.subject e.members = false) (calls : Nat) (context : LogContext) :
    ((e.repeating M calls).deliver context e.first).1 = e.repeating M (calls + 1) ∧
      ((e.repeating M calls).deliver context e.first).2.2 = .error .integerRange := by
  have hretries : (e.repeating M calls).bus.maxRetries = M := rfl
  simp only [Outbox.deliver, first, e.repeating_call hs, Outbox.withRegistry, hretries, hM]
  exact ⟨rfl, rfl⟩

/-- So does a drain, which makes one trial. -/
theorem repeating_drain (hM : Journal.fits M = false) (e : Notice)
    (hs : Assoc.contains Misuse.subject e.members = false) (calls : Nat) (context : LogContext) :
    (e.repeating M calls).drainTrials context =
        [⟨context, false, e.repeating M calls, e.first⟩] ∧
      ((e.repeating M calls).drain context).1 = e.repeating M (calls + 1) := by
  have hflush : (e.repeating M calls).flush context = (e.repeating M calls, []) := rfl
  have hrows : (e.repeating M calls).journal.replayable =
      [⟨1, e.hook.name, e.payload.text, none, .pending, none, 0, false⟩] := rfl
  have howed : Outbox.owed ⟨1, e.hook.name, e.payload.text, none, .pending, none, 0, false⟩ =
      e.first := Delivery.reread_eq (d := e.first) e.isStorable.unlimited
  obtain ⟨hfst, hresult⟩ := e.repeating_deliver hM hs calls context
  have hpending : (e.repeating M calls).pending = [] := rfl
  simp only [Outbox.drainTrials, Outbox.drain, hflush, hrows, hpending, Outbox.flushTrials,
    Outbox.replayTrials, Outbox.replayAll, howed]
  generalize (e.repeating M calls).deliver context e.first = delivery at hfst hresult
  obtain ⟨o, entries, result⟩ := delivery
  obtain rfl : o = _ := hfst
  obtain rfl : result = _ := hresult
  exact ⟨rfl, rfl⟩

/-- A trial of the notice that calls one plugin, by a name. -/
def CallsOnly (e : Notice) (name : String) (t : Trial) : Prop :=
  t.delivery.id = 1 ∧ (e.called t).map (·.1) = [name]

/-- So many trials that each call one plugin call it so many times. -/
theorem count_of_callsOnly {e : Notice} {name : String} {ts : List Trial}
    (h : ∀ t ∈ ts, e.CallsOnly name t) :
    (((ts.filter (·.delivery.id = 1)).flatMap e.called).map (·.1)).count name = ts.length := by
  induction ts with
  | nil => rfl
  | cons t rest ih =>
    obtain ⟨hid, hname⟩ := h t (.head _)
    rw [List.filter_cons_of_pos (by simpa using hid), List.flatMap_cons, List.map_append, hname,
      List.count_append, ih fun t ht => h t (.tail _ ht), List.length_cons]
    simp [Nat.add_comm]

/-- A trial of that outbox calls its plugin and no other. -/
theorem callsOnly_repeating (e : Notice) (M : Int) (calls : Nat) (context : LogContext) :
    e.CallsOnly Site.failing.className ⟨context, false, e.repeating M calls, e.first⟩ := by
  refine ⟨rfl, ?_⟩
  have himpl : Member.implements e.hook (.plugin { Site.failing with calls }) = true := by
    cases e.hook <;> rfl
  have haudience : (e.repeating M calls).bus.registry.audience e.hook =
      [(Site.failing.className, .plugin { Site.failing with calls })] := by
    simp only [Registry.audience, repeating, List.reverse_singleton]
    exact List.filter_cons_of_pos himpl
  rw [called, Registry.reached, haudience]
  rfl

/-- Drain after drain makes a trial that calls the plugin. -/
theorem callsOnly_drains (hM : Journal.fits M = false) (e : Notice)
    (hs : Assoc.contains Misuse.subject e.members = false) (n : Nat) {calls : Nat}
    {i : Installation} (hb : i.client.bus = some (e.repeating M calls).bus)
    (hj : i.client.journal = (e.repeating M calls).journal) :
    (∀ t ∈ i.trials (List.replicate n .drain), e.CallsOnly Site.failing.className t) ∧
      (i.trials (List.replicate n .drain)).length = n := by
  induction n generalizing calls i with
  | zero => exact ⟨nofun, rfl⟩
  | succ n ih =>
    obtain ⟨htrials, hafter⟩ := e.repeating_drain hM hs calls i.client.context
    have hone : Operation.drain.trials i.client =
        [⟨i.client.context, false, e.repeating M calls, e.first⟩] := by
      simp only [Operation.trials, Client.onBus, hb, hj]
      exact htrials
    have hclient : (Operation.drain.run i).client.bus = some (e.repeating M (calls + 1)).bus ∧
        (Operation.drain.run i).client.journal = (e.repeating M (calls + 1)).journal := by
      have hrun : (Operation.drain.run i).client = i.client.withOutbox
          ((e.repeating M calls).drain i.client.context).1
          ((e.repeating M calls).drain i.client.context).2.1 := by
        simp only [Operation.run, Installation.act, Client.drain, Client.onOutbox_some hb, hj]
      rw [hrun, hafter]
      exact ⟨rfl, rfl⟩
    obtain ⟨hrest, hlength⟩ := ih hclient.1 hclient.2
    rw [List.replicate_succ, Installation.trials, hone]
    refine ⟨fun t ht => ?_, by rw [List.length_append, hlength]; exact Nat.add_comm 1 n⟩
    rcases List.mem_append.1 ht with ht | ht
    · rw [List.mem_singleton.1 ht]
      exact e.callsOnly_repeating ..
    · exact hrest t ht

end Notice

/-- An installation without a worker, with a plugin that fails. -/
def Installation.failing (M : Int) : Installation :=
  (Installation.atRoot M true).after [.shutdown, .register Site.failing ""]

/-- A notice whose only plugin fails, and that is drained so many times. -/
def Announcement.repeated (M : Int) (e : Notice) (n : Nat) :
    Announcement M true e.hook.name e.payload where
  start := .atRoot M true
  fresh := Installation.atRoot_isFresh M true
  keyed := Installation.atRoot_isKeyed M true
  earlier := [.shutdown, .register Site.failing ""]
  connected := rfl
  account := none
  later := List.replicate n .drain

/-- Where the failure cannot be recorded, the plugin is called in the dispatch and in every
drain. -/
theorem Notice.count_repeated {M : Int} (hM : Journal.fits M = false) (e : Notice)
    (hs : Assoc.contains Misuse.subject e.members = false) (n : Nat) :
    ((((Announcement.repeated M e n).trials.flatMap e.called).map (·.1)).count
      Site.failing.className) = n + 1 := by
  let dispatched := (Operation.dispatch e.hook.name e.payload none).run (.failing M)
  have htrials : (Announcement.repeated M e n).start.trials
      (Announcement.repeated M e n).operations =
      ⟨.empty, false, e.repeating M 0, e.first⟩ ::
        dispatched.trials (List.replicate n .drain) := rfl
  have hclient : dispatched.client.bus = some (e.repeating M 1).bus ∧
      dispatched.client.journal = (e.repeating M 1).journal := by
    have hrun : dispatched.client = (Installation.failing M).client.withOutbox
        ((e.repeating M 0).deliver .empty e.first).1
        ((e.repeating M 0).deliver .empty e.first).2.1 := rfl
    rw [hrun, (e.repeating_deliver hM hs 0 .empty).1]
    exact ⟨rfl, rfl⟩
  obtain ⟨hrest, hlength⟩ := e.callsOnly_drains hM hs n hclient.1 hclient.2
  have hall : ∀ t ∈ ⟨.empty, false, e.repeating M 0, e.first⟩ ::
      dispatched.trials (List.replicate n .drain), e.CallsOnly Site.failing.className t :=
    List.forall_mem_cons.2 ⟨e.callsOnly_repeating .., hrest⟩
  have hcount := Notice.count_of_callsOnly hall
  rw [List.length_cons, hlength] at hcount
  rw [Announcement.trials, htrials]
  exact hcount

/-- Every event is heard by whom it is for in every run of every fresh installation exactly if the
journal can compare with the greatest number of retries and is kept in a file, and hook calls take
the payload. An event under a name that stands for nothing only needs a journal that is kept in a
file. -/
theorem told_iff (M : Int) (durable : Bool) :
    (∀ e : Notice, (∀ a : Announcement M durable e.hook.name e.payload, e.Told a) ↔
      Journal.fits M = true ∧ durable = true ∧
        Assoc.contains Misuse.subject e.members = false) ∧
    ∀ x : Stranger, (∀ (payload : Json) (a : Announcement M durable x.name payload), a.Unheard) ↔
      durable = true := by
  refine ⟨fun e => ⟨fun h => ?_, ?_⟩, fun x => ⟨fun h => ?_, ?_⟩⟩
  · by_cases hd : durable = true
    · subst hd
      by_cases hs : Assoc.contains Misuse.subject e.members = true
      · exact absurd (h _) (Notice.not_told_byWorker (.inr hs))
      · have hs : Assoc.contains Misuse.subject e.members = false := by simpa using hs
        refine ⟨?_, rfl, hs⟩
        by_contra hM
        -- So many drains that the plugin is called once too often.
        have hmost := (h (.repeated M e (Journal.limit M).toNat)).atMost Site.failing.className
        rw [e.count_repeated (by simpa using hM) hs] at hmost
        omega
    · exact absurd (h _) (Notice.not_told_byWorker (.inl (by simpa using hd)))
  · rintro ⟨hM, rfl, hs⟩ a
    exact Notice.told hM hs a
  · by_contra hd
    have hunheard := h .null (.byWorker M durable x.name .null)
      (Announcement.workerTrial M durable x.name .null)
      (by rw [Announcement.trials_byWorker]; exact .head _)
    exact Announcement.workerTrial_statusOf (.inl (by simpa using hd)) hunheard.2
  · rintro rfl payload a
    exact a.unheard

/-- A notice of some event. -/
def Notice.sample : Notice where
  hook := .vvmEvent
  members := Hook.vvmEvent.argumentNames.map fun name => (name, .str "")
  written := Json.isStorable_iff.1 ⟨by decide, trivial, trivial, trivial, trivial, trivial⟩
  complete := by decide

/-- With fewer than `-2 ^ 63` retries, where the first failure should be the last, a plugin that
fails is called again. -/
theorem not_told_sample :
    ¬Notice.sample.Told (Announcement.repeated (-9223372036854775809) .sample 1) := by
  intro h
  have hmost := h.atMost Site.failing.className
  rw [Notice.count_repeated (by decide) .sample (by decide)] at hmost
  revert hmost
  decide

end Voicemail
