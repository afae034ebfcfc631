import Voicemail.Proofs.Installation.Trials
import Voicemail.Proofs.Outbox.Tracking

/-!
# Which events the trials of an installation deliver

The events that operations dispatch are numbered in their order (`Installation.arrivals`). Every
trial that operations make is of one of them, and its row is in the journal by then
(`Installation.Tracks.after`). If the store is kept in a file, that is so also when the client was
closed and its store opened again in between.
-/

namespace Voicemail

/-- The deliveries that an operation dispatches. -/
def Operation.arrivals : Operation → Client → List Delivery
  | .dispatch hook payload _ => Client.onBus fun _ o => [⟨o.journal.nextId, hook, payload⟩]
  | _ => fun _ => []

/-- Whether the store is opened again in an operation. -/
def Operation.reopens : Operation → Bool
  | .reopen _ _ => true
  | _ => false

namespace Installation

/-- No two plugins of an installation have one name. -/
def IsKeyed (i : Installation) : Prop :=
  ∀ bus, i.client.bus = some bus → bus.registry.IsKeyed

/-- What an installation is between two operations: the events dispatched so far have their rows, a
bus that is there keeps track of them, and a durable store is kept in a file. -/
structure Tracks (M : Int) (durable : Bool) (past : List Delivery) (i : Installation) : Prop where
  retries : i.client.settings.events.maxRetries = M
  directory : i.directory.anchor ≠ .relative
  place : i.place = .ofPath i.directory i.client.settings.databasePath
  kept : durable = true → i.place ≠ .memory
  journal : i.client.journal.Tracks past
  bus : ∀ bus, i.client.bus = some bus → Outbox.Tracks M durable past ⟨i.client.journal, bus⟩

variable {M : Int} {durable : Bool} {past : List Delivery} {i : Installation}

/-- A fresh installation keeps track of nothing. -/
theorem IsFresh.tracks (h : i.IsFresh M durable) (hk : i.IsKeyed) : i.Tracks M durable [] where
  retries := h.retries
  directory := h.directory
  place := h.place
  kept hd hm := by cases hd.symm.trans (h.inMemory.1 hm)
  journal := h.journal ▸ .empty
  bus bus hb := by
    obtain ⟨hretries, hwaiting, hreach⟩ := h.bus bus hb
    refine ⟨h.journal ▸ .empty, fun d hd => ?_, hretries, hreach, hk bus hb⟩
    rw [Outbox.pending, hwaiting] at hd
    cases hd

/-- Work that keeps track on an outbox keeps track on an installation. -/
theorem Tracks.onOutbox (h : i.Tracks M durable past) {α : Type} (member : String)
    (f : LogContext → Outbox → Outbox × Transcript × Except Failure α)
    (trials : LogContext → Outbox → List Trial) (arrivals : LogContext → Outbox → List Delivery)
    (hf : ∀ context o, o.Tracks M durable past →
      (∀ t ∈ trials context o, t.Tracked M durable (past ++ arrivals context o)) ∧
        (f context o).1.Tracks M durable (past ++ arrivals context o)) :
    (∀ t ∈ i.client.onBus trials, t.Tracked M durable (past ++ i.client.onBus arrivals)) ∧
      (i.act (Client.onOutbox member f)).Tracks M durable (past ++ i.client.onBus arrivals) := by
  cases hb : i.client.bus with
  | none =>
    simp only [Client.onBus, hb, act, Client.onOutbox_none hb, List.append_nil]
    exact ⟨List.forall_mem_nil _, h⟩
  | some bus =>
    obtain ⟨htrials, hafter⟩ := hf i.client.context ⟨i.client.journal, bus⟩ (h.bus bus hb)
    simp only [Client.onBus, hb, act, Client.onOutbox_some hb]
    refine ⟨htrials, h.retries, h.directory, h.place, h.kept, hafter.journal, fun bus' hb' => ?_⟩
    obtain rfl := Option.some.inj hb'
    exact hafter

/-- Work that dispatches nothing. -/
theorem Tracks.onOutbox_nil (h : i.Tracks M durable past) {α : Type} (member : String)
    (f : LogContext → Outbox → Outbox × Transcript × Except Failure α)
    (trials : LogContext → Outbox → List Trial)
    (hf : ∀ context o, o.Tracks M durable past →
      (∀ t ∈ trials context o, t.Tracked M durable past) ∧ (f context o).1.Tracks M durable past) :
    (∀ t ∈ i.client.onBus trials, t.Tracked M durable past) ∧
      (i.act (Client.onOutbox member f)).Tracks M durable past := by
  have := h.onOutbox member f trials (fun _ _ => []) fun context o ho => by
    simpa only [List.append_nil] using hf context o ho
  simpa only [Client.onBus_nil, List.append_nil] using this

/-- Work on the plugins makes no trial. -/
theorem Tracks.onRegistry (h : i.Tracks M durable past) {α : Type} (member : String)
    (f : LogContext → Outbox → Outbox × Transcript × Except Failure α)
    (hf : ∀ context o, o.Tracks M durable past → (f context o).1.Tracks M durable past) :
    (i.act (Client.onOutbox member f)).Tracks M durable past :=
  (h.onOutbox_nil member f (fun _ _ => []) fun context o ho => ⟨nofun, hf context o ho⟩).2

/-- A shutdown keeps track, and its trials are those of the deliveries that waited. -/
theorem Tracks.shutdown (h : i.Tracks M durable past) :
    (∀ t ∈ i.client.onBus (fun _ o => Outbox.flushTrials o.pending o), t.Tracked M durable past) ∧
      (i.act Client.shutdown).Tracks M durable past :=
  h.onOutbox_nil "shutdown"
    (fun context o => ((o.shutdown context).1, (o.shutdown context).2, .ok ()))
    (fun _ o => Outbox.flushTrials o.pending o)
    fun context _ ho => ⟨(ho.flush context).1, ho.shutdown context⟩

/-- So does closing a client, after which there is no bus. -/
theorem Tracks.close (h : i.Tracks M durable past) :
    (∀ t ∈ i.client.onBus (fun _ o => Outbox.flushTrials o.pending o), t.Tracked M durable past) ∧
      i.close.Tracks M durable past := by
  obtain ⟨htrials, hafter⟩ := h.shutdown
  refine ⟨htrials, ?_⟩
  cases hb : i.client.bus with
  | none =>
    rw [close_eq, Client.close_none hb]
    exact ⟨h.retries, h.directory, h.place, h.kept, h.journal, h.bus⟩
  | some bus =>
    rw [close_eq, Client.close_some hb]
    exact ⟨hafter.retries, hafter.directory, hafter.place, hafter.kept, hafter.journal, nofun⟩

/-- A client that is closed and opened again has the rows of all events, and nothing waits. -/
theorem Tracks.reopen (h : i.Tracks M true past) (synchronous : Bool)
    (installed : List EntryPoint) :
    (i.close.openStore (i.client.settings.delivering synchronous) true installed).2.Tracks M true
      past := by
  obtain ⟨-, hclosed⟩ := h.close
  have hset : i.client.settings = i.close.client.settings := by
    rw [close_eq]
    exact (Client.close_settings i.client).symm
  have hre := reopened hclosed.directory hclosed.place (hclosed.kept rfl) (fun _ => storeIn_close i)
    synchronous installed
  rw [hset]
  generalize (i.close.openStore (i.close.client.settings.delivering synchronous) true
    installed).2 = i' at hre ⊢
  have hjournal : i'.client.journal.Tracks past := hre.journal ▸ hclosed.journal
  refine ⟨hre.retries.trans hclosed.retries, ?_, ?_, ?_, hjournal, fun b hb => ?_⟩
  · rw [hre.directory]
    exact hclosed.directory
  · rw [hre.place, hre.directory, hre.path]
    exact hclosed.place
  · rw [hre.place]
    exact hclosed.kept
  · rcases hre.bus with hsame | ⟨b', hb', hretries, hwaiting, hreach, hregistry⟩
    · have hnone : i.close.client.bus = none := by
        rw [close_eq]
        exact Client.close_bus i.client
      rw [hsame, hnone] at hb
      cases hb
    · obtain rfl : b' = b := Option.some.inj (hb'.symm.trans hb)
      refine ⟨hjournal, fun d hd => ?_, hretries.trans hclosed.retries, hreach, ?_⟩
      · rw [Outbox.pending, hwaiting] at hd
        cases hd
      · rw [hregistry]
        exact (Registry.isKeyed_empty _).discover installed

/-- An operation makes trials of the events dispatched so far and of its own, and keeps track unless
it opens a store again that is gone. -/
theorem Tracks.run (h : i.Tracks M durable past) {op : Operation}
    (hkept : durable = true ∨ op.reopens = false) :
    (∀ t ∈ op.trials i.client, t.Tracked M durable (past ++ op.arrivals i.client)) ∧
      (op.run i).Tracks M durable (past ++ op.arrivals i.client) := by
  cases op with
  | dispatch hook payload account =>
    exact h.onOutbox "dispatch" _ _ _ fun context o ho => ho.dispatch context hook payload account
  | drain =>
    simp only [Operation.arrivals, List.append_nil]
    exact h.onOutbox_nil "drain" Outbox.drain _ fun context o ho => ho.drain context
  | shutdown =>
    simp only [Operation.arrivals, List.append_nil]
    exact h.shutdown
  | work =>
    simp only [Operation.arrivals, List.append_nil]
    exact h.onOutbox_nil "work"
      (fun context o => ((o.work context).1, (o.work context).2, .ok ())) (fun _ o => o.workTrials)
      fun context o ho => ho.work context
  | register p name =>
    simp only [Operation.arrivals, List.append_nil]
    refine ⟨nofun, h.onRegistry "plugin_manager" _ fun context o ho => ?_⟩
    cases hr : o.bus.registry.register p name with
    | ok r => exact ho.withRegistry (ho.keyed.add hr)
    | error => exact ho
  | discover installed =>
    simp only [Operation.arrivals, List.append_nil]
    exact ⟨nofun, h.onRegistry "plugin_manager" _ fun context o ho =>
      ho.withRegistry (ho.keyed.discover installed)⟩
  | close =>
    simp only [Operation.arrivals, List.append_nil]
    exact h.close
  | reopen synchronous installed =>
    simp only [Operation.arrivals, List.append_nil]
    obtain rfl : durable = true := hkept.resolve_right (nomatch ·)
    exact ⟨h.close.1, h.reopen synchronous installed⟩

/-- The deliveries that some operations dispatch. -/
def arrivals : List Operation → Installation → List Delivery
  | [], _ => []
  | op :: ops, i => op.arrivals i.client ++ arrivals ops (op.run i)

/-- What operations dispatch comes before what later ones dispatch. -/
theorem arrivals_append (earlier later : List Operation) (i : Installation) :
    i.arrivals (earlier ++ later) = i.arrivals earlier ++ (i.after earlier).arrivals later := by
  induction earlier generalizing i with
  | nil => rfl
  | cons op ops ih =>
    rw [List.cons_append, arrivals, ih, arrivals, List.append_assoc]
    rfl

/-- Operations make trials of the events dispatched by then, and keep track. -/
theorem Tracks.after (h : i.Tracks M durable past) (ops : List Operation)
    (hkept : durable = true ∨ ∀ op ∈ ops, op.reopens = false) :
    (∀ t ∈ i.trials ops, ∃ past' ⊆ past ++ i.arrivals ops, t.Tracked M durable past') ∧
      (i.after ops).Tracks M durable (past ++ i.arrivals ops) := by
  induction ops generalizing i past with
  | nil => exact ⟨nofun, by rwa [arrivals, List.append_nil]⟩
  | cons op ops ih =>
    obtain ⟨htrials, hafter⟩ := h.run (hkept.imp_right fun hops => hops op (.head _))
    obtain ⟨hrest, hend⟩ := ih hafter (hkept.imp_right fun hops op hop => hops op (.tail _ hop))
    rw [List.append_assoc] at hrest hend
    refine ⟨fun t ht => ?_, hend⟩
    rcases List.mem_append.1 ht with ht | ht
    · refine ⟨_, ?_, htrials t ht⟩
      rw [arrivals, ← List.append_assoc]
      exact List.subset_append_left ..
    · exact hrest t ht

end Installation

end Voicemail
