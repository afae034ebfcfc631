import Voicemail.Proofs.Json.RoundTrip
import Voicemail.Proofs.Outbox.Trials
import Voicemail.Proofs.Plugin.Calls

/-!
# Which event a trial delivers

An outbox makes trials of events that were dispatched, and of no others. `Outbox.Tracks` says of the
events dispatched so far that the journal has their rows, and that nothing else waits. Then every
trial is of one of them, as it was dispatched or as it is read back from its row (`Trial.Tracked`),
and every operation keeps track, a dispatch of one event more. None of this depends on which
failures can be recorded.
-/

namespace Voicemail

/-- A delivery as it is read back from its row. -/
def Delivery.reread (d : Delivery) : Delivery :=
  ⟨d.id, d.hook, (Json.restore? d.payload.text).getD .null⟩

/-- A payload is read back as it was. -/
theorem Delivery.reread_eq {d : Delivery} (h : d.payload.Fits false) : d.reread = d := by
  rw [reread, Json.restore?_text h]
  rfl

/-- What the row of a delivery says about the event. -/
def Delivery.stamp (d : Delivery) : Nat × String × String := (d.id, d.hook, d.payload.text)

/-- What a row says about its event that a delivery has. -/
def Row.stamp (r : Row) : Nat × String × String := (r.id, r.hook, r.payload)

@[simp] theorem Row.settle_stamp (M : Int) (outcome : Option String) (r : Row) :
    (r.settle M outcome).stamp = r.stamp := by
  cases outcome <;> rfl

/-! ## Journals -/

/-- The rows of a journal are those of some deliveries, which are numbered from one on. -/
structure Journal.Tracks (past : List Delivery) (j : Journal) : Prop where
  stamps : j.rows.map Row.stamp = past.map Delivery.stamp
  numbered : past.map (·.id) = List.range' 1 past.length

namespace Journal.Tracks

variable {past : List Delivery} {j : Journal} {d d' : Delivery}

/-- An empty journal is that of no deliveries. -/
theorem empty : Journal.empty.Tracks [] := ⟨rfl, rfl⟩

/-- There are as many rows as deliveries. -/
theorem length (h : j.Tracks past) : j.rows.length = past.length := by
  simpa using congrArg List.length h.stamps

/-- No two rows have one number. -/
theorem nodup (h : j.Tracks past) : (j.rows.map (·.id)).Nodup := by
  have hids := congrArg (List.map Prod.fst) h.stamps
  rw [List.map_map, List.map_map] at hids
  have hnumbered : (j.rows.map (·.id)) = List.range' 1 past.length := hids.trans h.numbered
  rw [hnumbered]
  exact List.nodup_range'

/-- A new row is that of the next delivery. -/
theorem append (h : j.Tracks past) (hook : String) (payload : Json) (account : Option String) :
    (j.append hook payload.text account).Tracks (past ++ [⟨j.nextId, hook, payload⟩]) where
  stamps := by
    rw [Journal.append, List.map_append, h.stamps, List.map_append]
    rfl
  numbered := by
    rw [List.map_append, h.numbered, List.length_append, List.length_singleton,
      List.range'_concat, Journal.nextId, h.length]
    simp only [List.map_cons, List.map_nil]
    rw [Nat.add_comm, Nat.one_mul]

/-- A delivery leaves what the rows say about the events. -/
theorem record (h : j.Tracks past) (M : Int) (d : Delivery) (outcome : Option String) :
    (j.record M d outcome).Tracks past := by
  unfold Journal.record
  split
  · exact ⟨by rw [Journal.map_update _ _ (Row.settle_stamp M outcome), h.stamps], h.numbered⟩
  · exact h

/-- What a row owes is a delivery that is read back. -/
theorem owed (h : j.Tracks past) {r : Row} (hr : r ∈ j.rows) :
    ∃ d ∈ past, Outbox.owed r = d.reread := by
  have hmem : r.stamp ∈ past.map Delivery.stamp := h.stamps ▸ List.mem_map_of_mem hr
  obtain ⟨d, hd, hstamp⟩ := List.mem_map.1 hmem
  simp only [Delivery.stamp, Row.stamp, Prod.mk.injEq] at hstamp
  obtain ⟨hid, hhook, hpayload⟩ := hstamp
  exact ⟨d, hd, by rw [Delivery.reread, hid, hhook, hpayload]; rfl⟩

/-- Every delivery has its row, -/
theorem exists_stamp (h : j.Tracks past) (hd : d ∈ past) : ∃ r ∈ j.rows, r.stamp = d.stamp := by
  have hmem : d.stamp ∈ j.rows.map Row.stamp := h.stamps ▸ List.mem_map_of_mem hd
  exact List.mem_map.1 hmem

/-- which has its number. -/
theorem exists_row (h : j.Tracks past) (hd : d ∈ past) : ∃ r ∈ j.rows, r.id = d.id := by
  obtain ⟨r, hr, hstamp⟩ := h.exists_stamp hd
  exact ⟨r, hr, congrArg Prod.fst hstamp⟩

end Journal.Tracks

/-- A delivery that succeeded has completed its row. -/
theorem Journal.statusOf_record_none (M : Int) {d : Delivery} {j : Journal}
    (hd : ∃ r ∈ j.rows, r.id = d.id) : (j.record M d none).statusOf d.id = .completed := by
  obtain ⟨r, -, -, hstatus⟩ := Journal.exists_statusOf_update hd (f := Row.complete) fun _ => rfl
  exact hstatus

/-- A delivery that failed has not, where its failure can be recorded. -/
theorem Journal.statusOf_record_some {M : Int} (hM : Journal.fits M) {d : Delivery} {j : Journal}
    (hd : ∃ r ∈ j.rows, r.id = d.id) (error : String) :
    (j.record M d (some error)).statusOf d.id ≠ .completed := by
  obtain ⟨r, -, -, hstatus⟩ :=
    Journal.exists_statusOf_update hd (f := Row.fail error M) fun _ => rfl
  rw [Journal.record, Journal.records, hM, Bool.or_true, if_pos rfl]
  show (j.update d.id (Row.fail error M)).statusOf d.id ≠ .completed
  rw [hstatus, Row.fail]
  dsimp only
  split <;> exact RowStatus.noConfusion

/-- No two deliveries that are numbered from one on have one number. -/
theorem eq_of_numbered {past : List Delivery}
    (h : past.map (·.id) = List.range' 1 past.length) {d d' : Delivery} (hd : d ∈ past)
    (hd' : d' ∈ past) (hid : d.id = d'.id) : d = d' :=
  List.inj_on_of_nodup_map (h ▸ List.nodup_range') hd hd' hid

/-! ## Outboxes -/

/-- An outbox between two trials: the events dispatched so far have their rows, only they wait, and
the bus counts retries up to `M`, has no name twice, and reaches the journal if that is durable. -/
structure Outbox.Tracks (M : Int) (durable : Bool) (past : List Delivery) (o : Outbox) : Prop where
  journal : o.journal.Tracks past
  waiting : ∀ d ∈ o.pending, d ∈ past
  retries : o.bus.maxRetries = M
  reach : o.bus.journalInReach = durable
  keyed : o.bus.registry.IsKeyed

/-- A trial of an event that was dispatched. -/
structure Trial.Tracked (M : Int) (durable : Bool) (past : List Delivery) (t : Trial) : Prop where
  context : t.byWorker = true → t.context = .empty
  before : t.before.Tracks M durable past
  delivery : ∃ d ∈ past, t.delivery = d ∨ t.delivery = d.reread

/-- A trial keeps track. -/
theorem Outbox.Tracks.trial {M : Int} {durable : Bool} {past : List Delivery} {t : Trial}
    (h : t.before.Tracks M durable past) (hc : t.byWorker = true → t.context = .empty) :
    t.after.Tracks M durable past := by
  rw [t.after_eq hc]
  refine ⟨?_, h.waiting, h.retries, h.reach, h.keyed.callNamed ..⟩
  dsimp only
  split
  · exact h.journal.record ..
  · exact h.journal

/-- What comes of a trial is nothing if its hook call did not fail. -/
theorem Trial.outcome_eq_none (t : Trial) :
    t.before.outcome t.context t.delivery = none ↔ t.call.2.2.isOk = true := by
  unfold Outbox.outcome Trial.call
  cases (t.before.bus.registry.callNamed t.context t.delivery.hook t.delivery.payload).2.2 <;>
    simp [Except.isOk, Except.toBool]

/-- A trial is kept as one that failed if its hook call did. -/
theorem Trial.delivered_failed (t : Trial) : t.delivered.failed = !t.call.2.2.isOk := by
  unfold Trial.delivered Outbox.delivered Outbox.outcome Trial.call
  cases (t.before.bus.registry.callNamed t.context t.delivery.hook t.delivery.payload).2.2 <;> rfl

namespace Trial.Tracked

variable {M : Int} {durable : Bool} {past : List Delivery} {t : Trial}

/-- The event of a trial has its row. -/
theorem exists_row (h : t.Tracked M durable past) :
    ∃ r ∈ t.before.journal.rows, r.id = t.delivery.id := by
  obtain ⟨d, hd, heq | heq⟩ := h.delivery
  · rw [heq]
    exact h.before.journal.exists_row hd
  · rw [heq]
    exact h.before.journal.exists_row (d := d) hd

/-- What comes of a trial reaches a durable journal. -/
theorem journal_after (h : t.Tracked M true past) :
    t.after.journal =
      t.before.journal.record M t.delivery (t.before.outcome t.context t.delivery) := by
  have hreaches : t.reaches = true := by simp [reaches, h.before.reach]
  rw [t.after_eq h.context, hreaches, h.before.retries]
  rfl

/-- A trial completes the row if its hook call does not fail. -/
theorem completes (h : t.Tracked M true past) (hok : t.call.2.2.isOk = true) :
    t.after.journal.statusOf t.delivery.id = .completed := by
  rw [h.journal_after, t.outcome_eq_none.2 hok]
  exact Journal.statusOf_record_none M h.exists_row

/-- Where failures can be recorded, it does so only then. -/
theorem completes_iff (hM : Journal.fits M) (h : t.Tracked M true past) :
    t.after.journal.statusOf t.delivery.id = .completed ↔ t.call.2.2.isOk = true := by
  refine ⟨fun hcompleted => ?_, h.completes⟩
  rw [← t.outcome_eq_none]
  rw [h.journal_after] at hcompleted
  cases hout : t.before.outcome t.context t.delivery with
  | none => rfl
  | some error =>
    rw [hout] at hcompleted
    exact absurd hcompleted (Journal.statusOf_record_some hM h.exists_row error)

end Trial.Tracked

namespace Outbox.Tracks

variable {M : Int} {durable : Bool} {past : List Delivery} {context : LogContext} {o : Outbox}

/-- Other plugins may be registered, if no name is taken twice. -/
theorem withRegistry (h : o.Tracks M durable past) {r : Registry} (hr : r.IsKeyed) :
    (o.withRegistry r).Tracks M durable past :=
  ⟨h.journal, h.waiting, h.retries, h.reach, hr⟩

/-- Fewer deliveries may wait. -/
theorem withWaiting (h : o.Tracks M durable past) (waiting : Option (List Delivery))
    (hw : ∀ d ∈ waiting.getD [], d ∈ past) : (o.withWaiting waiting).Tracks M durable past :=
  ⟨h.journal, hw, h.retries, h.reach, h.keyed⟩

/-- Delivering what waited keeps track, trial by trial. -/
theorem flushAll (h : o.Tracks M durable past) (context : LogContext) (ds : List Delivery)
    (hds : ∀ d ∈ ds, d ∈ past) :
    (∀ t ∈ flushTrials ds o, t.Tracked M durable past) ∧
      (flushAll context ds o).1.Tracks M durable past := by
  obtain ⟨htrials, hend⟩ := flushTrials_invariant (P := fun o => o.Tracks M durable past)
    (Q := fun d => d ∈ past) (fun o d _ ho => Outbox.Tracks.trial ho fun _ => rfl) context hds h
  refine ⟨fun t ht => ?_, hend⟩
  obtain ⟨-, hcontext, hmem, hbefore⟩ := htrials t ht
  exact ⟨fun _ => hcontext, hbefore, t.delivery, hds _ hmem, .inl rfl⟩

/-- So does a flush, after which nothing waits, -/
theorem flush (h : o.Tracks M durable past) (context : LogContext) :
    (∀ t ∈ flushTrials o.pending o, t.Tracked M durable past) ∧
      (o.flush context).1.Tracks M durable past := by
  have hall := h.flushAll context o.pending h.waiting
  refine ⟨hall.1, ?_⟩
  unfold Outbox.flush
  unfold pending at hall
  cases hw : o.bus.waiting with
  | none => exact h
  | some ds =>
    rw [hw] at hall
    exact hall.2.withWaiting (some []) nofun

/-- and a drain, which goes on with deliveries of what the rows say. -/
theorem drain (h : o.Tracks M durable past) (context : LogContext) :
    (∀ t ∈ o.drainTrials context, t.Tracked M durable past) ∧
      (o.drain context).1.Tracks M durable past := by
  obtain ⟨hflush, hafter⟩ := h.flush context
  have hrows : ∀ r ∈ (o.flush context).1.journal.replayable, ∃ d ∈ past, owed r = d.reread :=
    fun r hr => hafter.journal.owed (List.mem_filter.1 hr).1
  obtain ⟨hreplay, hend⟩ := replayTrials_invariant (P := fun o => o.Tracks M durable past)
    (Q := fun r => ∃ d ∈ past, owed r = d.reread)
    (fun o r _ ho => Outbox.Tracks.trial (t := ⟨context, false, o, owed r⟩) ho nofun) hrows hafter
  refine ⟨fun t ht => ?_, hend⟩
  rcases List.mem_append.1 ht with ht | ht
  · exact hflush t ht
  · obtain ⟨hworker, ⟨r, hr, howed⟩, hbefore⟩ := hreplay t ht
    obtain ⟨d, hd, hreread⟩ := hrows r hr
    exact ⟨fun hw => (by rw [hworker] at hw; cases hw), hbefore, d, hd,
      .inr (howed.trans hreread)⟩

/-- After a shutdown nothing waits either. -/
theorem shutdown (h : o.Tracks M durable past) (context : LogContext) :
    (o.shutdown context).1.Tracks M durable past :=
  (h.flush context).2.withWaiting none nofun

/-- The worker's next delivery keeps track, if there is one. -/
theorem work (h : o.Tracks M durable past) (context : LogContext) :
    (∀ t ∈ o.workTrials, t.Tracked M durable past) ∧ (o.work context).1.Tracks M durable past := by
  have hwaiting := h.waiting
  unfold pending at hwaiting
  unfold workTrials Outbox.work
  match hw : o.bus.waiting with
  | none | some [] => exact ⟨nofun, h⟩
  | some (d :: rest) =>
    rw [hw] at hwaiting
    obtain ⟨htrials, hend⟩ := h.flushAll context [d] fun e he =>
      hwaiting e (List.mem_singleton.1 he ▸ .head _)
    exact ⟨htrials, hend.withWaiting (some rest) fun e he => hwaiting e (.tail _ he)⟩

/-- A dispatch keeps track of one event more. -/
theorem dispatch (h : o.Tracks M durable past) (context : LogContext) (hook : String)
    (payload : Json) (account : Option String) :
    (∀ t ∈ o.dispatchTrials context hook payload account,
      t.Tracked M durable (past ++ [⟨o.journal.nextId, hook, payload⟩])) ∧
    (o.dispatch context hook payload account).1.Tracks M durable
      (past ++ [⟨o.journal.nextId, hook, payload⟩]) := by
  let d : Delivery := ⟨o.journal.nextId, hook, payload⟩
  have hwritten : (o.writing hook payload.text account).Tracks M durable (past ++ [d]) :=
    ⟨h.journal.append hook payload account, fun e he => List.mem_append_left _ (h.waiting e he),
      h.retries, h.reach, h.keyed⟩
  cases hw : o.bus.waiting with
  | some ds =>
    simp only [dispatchTrials, Outbox.dispatch, hw]
    refine ⟨List.forall_mem_nil _, hwritten.withWaiting (some (ds ++ [d])) fun e he => ?_⟩
    rcases List.mem_append.1 he with he | he
    · refine List.mem_append_left _ (h.waiting e ?_)
      rwa [pending, hw]
    · exact List.mem_append_right _ he
  | none =>
    simp only [dispatchTrials, Outbox.dispatch, hw]
    refine ⟨fun t ht => ?_, ?_⟩
    · obtain rfl := List.mem_singleton.1 ht
      exact ⟨Bool.noConfusion, hwritten, d, List.mem_append_right _ (.head _), .inl rfl⟩
    · exact Outbox.Tracks.trial (t := ⟨context, false, o.writing hook payload.text account, d⟩)
        hwritten Bool.noConfusion

end Outbox.Tracks

end Voicemail
