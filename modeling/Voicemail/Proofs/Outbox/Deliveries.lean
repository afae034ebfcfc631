import Voicemail.Outbox
import Voicemail.Proofs.Journal.Ledger

/-!
# Deliveries of an outbox

An outbox writes its journal in the steps of a ledger: `Outbox.dispatch`, `Outbox.drain` and
`Outbox.shutdown` append events and deliver owed ones, nothing else (`Outbox.Leads`). The functions
`dispatched`, `flushed`, `drained` say which deliveries an operation makes; they follow the
recursion of the operation and look only at what the hook call of each delivery gives.

The worker makes one delivery at a time (`Outbox.work`), between any two operations, and
`flush_eq_work` says that flushing is the worker working until nothing waits.
-/

namespace Voicemail

/-- Rows of a journal that are to be delivered, each once. -/
def Journal.Owes (j : Journal) (ids : List Nat) : Prop :=
  ids.Nodup ∧ ∀ id ∈ ids, ∃ r ∈ j.rows, r.id = id ∧ r.status.isReplayable

/-- Every journal owes an empty list of rows. -/
theorem Journal.Owes.nil (j : Journal) : j.Owes [] := ⟨.nil, by simp⟩

/-- The delivery of the first row that is owed is a step, after which the others are still owed. -/
theorem Journal.Owes.deliver {j : Journal} {id : Nat} {ids : List Nat} (h : j.Owes (id :: ids))
    (M : Int) (outcome : Option String) (made : List Delivered)
    (dispatched : List JournaledEvent) :
    Ledger.Step M ⟨j, made, dispatched⟩
        ⟨j.update id (Row.settle M outcome), made ++ [⟨id, outcome.isSome⟩], dispatched⟩ ∧
      (j.update id (Row.settle M outcome)).Owes ids := by
  obtain ⟨hnodup, howed⟩ := h
  obtain ⟨hid, hnodup⟩ := List.nodup_cons.1 hnodup
  refine ⟨?_, hnodup, fun k hk => ?_⟩
  · obtain ⟨r, hr, rfl, ho⟩ := howed id (.head _)
    exact Ledger.Step.deliver ⟨j, made, dispatched⟩ hr ho outcome
  · obtain ⟨r, hr, rfl, ho⟩ := howed k (.tail _ hk)
    refine ⟨r, List.mem_map.2 ⟨r, hr, if_neg ?_⟩, rfl, ho⟩
    intro he
    exact hid (he ▸ hk)

/-- A new row is owed beside the others. -/
theorem Journal.Owes.append {M : Int} {j : Journal} {made : List Delivered}
    {dispatched : List JournaledEvent} {ids : List Nat} (h : j.Owes ids)
    (hl : Ledger.Lawful M ⟨j, made, dispatched⟩) (hook payload : String)
    (account : Option String) : (j.append hook payload account).Owes (ids ++ [j.nextId]) := by
  have hnew : j.nextId ∉ ids := by
    intro hmem
    obtain ⟨r, hr, hid, -⟩ := h.2 _ hmem
    have : r.id ≤ j.rows.length := hl.id_le hr
    simp only [Journal.nextId] at hid
    omega
  refine ⟨?_, fun id hid => ?_⟩
  · exact List.nodup_append.2 ⟨h.1, by simp, fun a ha b hb hab =>
      hnew (List.mem_singleton.1 hb ▸ hab ▸ ha)⟩
  · rcases List.mem_append.1 hid with hid | hid
    · obtain ⟨r, hr, he, ho⟩ := h.2 id hid
      exact ⟨r, List.mem_append_left _ hr, he, ho⟩
    · rw [List.mem_singleton.1 hid]
      exact ⟨_, List.mem_append_right _ (.head _), rfl, rfl⟩

/-- The rows that a drain delivers are owed. -/
theorem Ledger.Lawful.owes_replayable {M : Int} {l : Ledger} (h : l.Lawful M) :
    l.journal.Owes (l.journal.replayable.map (·.id)) := by
  refine ⟨?_, fun id hid => ?_⟩
  · have hsub : (l.journal.replayable.map (·.id)).Sublist (l.journal.rows.map (·.id)) :=
      List.filter_sublist.map _
    exact (h.pairwise.imp fun hlt => hlt.ne).sublist hsub
  · obtain ⟨r, hr, rfl⟩ := List.mem_map.1 hid
    obtain ⟨hmem, ho⟩ := List.mem_filter.1 hr
    exact ⟨r, hmem, rfl, ho⟩

namespace Outbox

variable {M : Int} {context : LogContext} {o : Outbox}

/-! ## One delivery -/

/-- What comes of the hook call of a delivery: the message of its failure, or none. -/
def outcome (context : LogContext) (d : Delivery) (o : Outbox) : Option String :=
  match (o.bus.registry.callNamed context d.hook d.payload).2.2 with
  | .ok () => none
  | .error e => some e.message

/-- A delivery as the history of an outbox keeps it. -/
def delivered (context : LogContext) (d : Delivery) (o : Outbox) : Delivered :=
  ⟨d.id, (o.outcome context d).isSome⟩

/-- A delivery settles its row by what came of the hook call. Only a greatest number of retries that
the journal cannot compare with stands in the way. -/
theorem deliver_eq (hM : Journal.fits o.bus.maxRetries) (context : LogContext) (d : Delivery) :
    ∃ registry entries status, o.deliver context d =
      (⟨o.journal.update d.id (Row.settle o.bus.maxRetries (o.outcome context d)),
        { o.bus with registry }⟩, entries, .ok status) := by
  unfold deliver outcome
  obtain ⟨registry, entries, result⟩ := o.bus.registry.callNamed context d.hook d.payload
  cases result with
  | ok => exact ⟨registry, entries, .completed, rfl⟩
  | error e =>
    simp only [withRegistry, hM, if_true]
    exact ⟨registry, _, _, rfl⟩

/-- Flushing one delivery settles its row, if the worker reaches the journal. -/
theorem flushAll_singleton (hM : Journal.fits o.bus.maxRetries) (hr : o.bus.journalInReach)
    (context : LogContext) (d : Delivery) :
    ∃ registry, (flushAll context [d] o).1 =
      ⟨o.journal.update d.id (Row.settle o.bus.maxRetries (o.outcome .empty d)),
        { o.bus with registry }⟩ := by
  obtain ⟨registry, entries, status, h⟩ := deliver_eq hM .empty d
  refine ⟨registry, ?_⟩
  simp only [flushAll, h, hr, if_true]

/-- Flushing several deliveries is flushing the first, then the others. -/
theorem flushAll_cons (context : LogContext) (d : Delivery) (ds : List Delivery) (o : Outbox) :
    (flushAll context (d :: ds) o).1 = (flushAll context ds (flushAll context [d] o).1).1 := rfl

/-! ## The deliveries that operations make -/

/-- The deliveries made while some are flushed. -/
def flushed (context : LogContext) : List Delivery → Outbox → List Delivered
  | [], _ => []
  | d :: rest, o => o.delivered .empty d :: flushed context rest (flushAll context [d] o).1

/-- The deliveries made while rows are replayed: one that cannot be recorded is the last. -/
def replayed (context : LogContext) : List Row → Outbox → List Delivered
  | [], _ => []
  | r :: rest, o =>
    o.delivered context (owed r) ::
      match o.deliver context (owed r) with
      | (o, _, .ok _) => replayed context rest o
      | (_, _, .error _) => []

/-- The deliveries that wait. -/
def pending (o : Outbox) : List Delivery := o.bus.waiting.getD []

/-- The deliveries that a drain makes: first what waits, then what the journal owes. -/
def drained (context : LogContext) (o : Outbox) : List Delivered :=
  flushed context o.pending o ++
    replayed context (o.flush context).1.journal.replayable (o.flush context).1

/-- The deliveries that a dispatch makes: its own, unless a worker is to make it. -/
def dispatchedAtOnce (context : LogContext) (hook : String) (payload : Json)
    (account : Option String) (o : Outbox) : List Delivered :=
  match o.bus.waiting with
  | some _ => []
  | none =>
    [({ o with journal := o.journal.append hook payload.text account } : Outbox).delivered context
      ⟨o.journal.nextId, hook, payload⟩]

/-- Flushing what is owed is so many steps, and nothing about the bus changes but its registry. -/
theorem flushAll_steps (hM : Journal.fits M) (context : LogContext) {ds : List Delivery}
    (hm : o.bus.maxRetries = M) (hr : o.bus.journalInReach)
    (hw : o.journal.Owes (ds.map (·.id))) (made : List Delivered)
    (dispatched : List JournaledEvent) :
    Ledger.Steps M ⟨o.journal, made, dispatched⟩
        ⟨(flushAll context ds o).1.journal, made ++ flushed context ds o, dispatched⟩ ∧
      ∃ registry, (flushAll context ds o).1.bus = { o.bus with registry } := by
  induction ds generalizing o made with
  | nil => exact ⟨by simp only [flushed, List.append_nil]; exact .refl, o.bus.registry, rfl⟩
  | cons d rest ih =>
    obtain ⟨registry, h⟩ := flushAll_singleton (hm ▸ hM) hr context d
    obtain ⟨hstep, hw'⟩ := hw.deliver M (o.outcome .empty d) made dispatched
    rw [hm] at h
    obtain ⟨hsteps, registry', hbus⟩ := ih (o := (flushAll context [d] o).1)
      (by rw [h]; exact hm) (by rw [h]; exact hr) (by rw [h]; exact hw')
      (made ++ [o.delivered .empty d])
    rw [flushAll_cons]
    refine ⟨?_, registry', by rw [hbus, h]⟩
    rw [List.append_assoc] at hsteps
    refine .head ?_ hsteps
    rw [h]
    exact hstep

/-- Replaying rows that are owed is so many steps, and nothing about the bus changes but its
registry. -/
theorem replayAll_steps (hM : Journal.fits M) (context : LogContext) {rs : List Row}
    (hm : o.bus.maxRetries = M) (hw : o.journal.Owes (rs.map (·.id))) (made : List Delivered)
    (dispatched : List JournaledEvent) :
    Ledger.Steps M ⟨o.journal, made, dispatched⟩
        ⟨(replayAll context rs o).1.journal, made ++ replayed context rs o, dispatched⟩ ∧
      ∃ registry, (replayAll context rs o).1.bus = { o.bus with registry } := by
  induction rs generalizing o made with
  | nil => exact ⟨by simp only [replayed, List.append_nil]; exact .refl, o.bus.registry, rfl⟩
  | cons r rest ih =>
    obtain ⟨registry, entries, status, h⟩ := deliver_eq (hm ▸ hM) context (owed r)
    obtain ⟨hstep, hw'⟩ := hw.deliver M (o.outcome context (owed r)) made dispatched
    obtain ⟨hsteps, registry', hbus⟩ := ih
      (o := ⟨o.journal.update (owed r).id
        (Row.settle o.bus.maxRetries (o.outcome context (owed r))), { o.bus with registry }⟩)
      hm (by rw [hm]; exact hw') (made ++ [o.delivered context (owed r)])
    simp only [replayAll, replayed, h]
    refine ⟨?_, registry', hbus⟩
    rw [List.append_assoc] at hsteps
    refine .head ?_ hsteps
    rw [hm]
    exact hstep

/-! ## Operations as steps -/

/-- What an outbox is between two operations: it counts retries up to `M`, its worker reaches the
journal, and every delivery that waits is owed. -/
structure Ready (M : Int) (o : Outbox) : Prop where
  retries : o.bus.maxRetries = M
  reach : o.bus.journalInReach = true
  waiting : o.journal.Owes (o.pending.map (·.id))

/-- An outbox leads to another by deliveries and dispatches: as ledgers the second follows from the
first in steps, and the second is ready again. -/
def Leads (M : Int) (o : Outbox) (made : List Delivered) (dispatched : List JournaledEvent)
    (o' : Outbox) : Prop :=
  ∀ earlier past, Ledger.Lawful M ⟨o.journal, earlier, past⟩ →
    Ledger.Steps M ⟨o.journal, earlier, past⟩
      ⟨o'.journal, earlier ++ made, past ++ dispatched⟩ ∧ o'.Ready M

/-- A change of the registry alone leads nowhere. -/
theorem Ready.withRegistry (h : o.Ready M) (registry : Registry) :
    Leads M o [] [] (o.withRegistry registry) := by
  intro earlier past _
  rw [List.append_nil, List.append_nil]
  exact ⟨.refl, h.retries, h.reach, h.waiting⟩

/-- Flushing delivers all that waits. -/
theorem Ready.flush (hM : Journal.fits M) (h : o.Ready M) (context : LogContext) :
    Leads M o (flushed context o.pending o) [] (o.flush context).1 := by
  intro earlier past hl
  rw [List.append_nil]
  cases hw : o.bus.waiting with
  | none =>
    simp only [Outbox.flush, pending, hw, Option.getD_none, flushed, List.append_nil]
    exact ⟨.refl, h⟩
  | some ds =>
    obtain ⟨hs, registry, hbus⟩ :=
      flushAll_steps hM context h.retries h.reach h.waiting earlier past
    simp only [pending, hw, Option.getD_some] at hs hbus ⊢
    simp only [Outbox.flush, hw]
    refine ⟨hs, by rw [hbus]; exact h.retries, by rw [hbus]; exact h.reach, ?_⟩
    exact .nil _

/-- After a flush nothing waits. -/
theorem pending_flush (context : LogContext) (o : Outbox) : (o.flush context).1.pending = [] := by
  cases hw : o.bus.waiting <;> simp [Outbox.flush, pending, hw]

/-- Draining delivers all that waits, then all that is owed. -/
theorem Ready.drain (hM : Journal.fits M) (h : o.Ready M) (context : LogContext) :
    Leads M o (drained context o) [] (o.drain context).1 := by
  intro earlier past hl
  obtain ⟨hs, hready⟩ := h.flush hM context earlier past hl
  rw [List.append_nil] at hs ⊢
  have hl' := Ledger.Steps.lawful hs hl
  obtain ⟨hs', registry, hbus⟩ :=
    replayAll_steps hM context hready.retries hl'.owes_replayable _ past
  rw [List.append_assoc] at hs'
  refine ⟨hs.trans hs', ?_⟩
  simp only [Outbox.drain]
  refine ⟨by rw [hbus]; exact hready.retries, by rw [hbus]; exact hready.reach, ?_⟩
  have hnone : (replayAll context (o.flush context).1.journal.replayable
      (o.flush context).1).1.pending = [] := by
    rw [pending, hbus]
    exact pending_flush context o
  rw [hnone]
  exact .nil _

/-- Shutting down delivers all that waits. -/
theorem Ready.shutdown (hM : Journal.fits M) (h : o.Ready M) (context : LogContext) :
    Leads M o (flushed context o.pending o) [] (o.shutdown context).1 := by
  intro earlier past hl
  obtain ⟨hs, hready⟩ := h.flush hM context earlier past hl
  exact ⟨hs, hready.retries, hready.reach, .nil _⟩

/-- Dispatching writes an event, and delivers it unless a worker is to do that. -/
theorem Ready.dispatch (hM : Journal.fits M) (h : o.Ready M) (context : LogContext)
    (hook : String) (payload : Json) (account : Option String) :
    Leads M o (dispatchedAtOnce context hook payload account o) [⟨hook, payload.text, account⟩]
      (o.dispatch context hook payload account).1 := by
  intro earlier past hl
  have happend := Ledger.Step.append (M := M) ⟨o.journal, earlier, past⟩
    ⟨hook, payload.text, account⟩
  have howes := h.waiting.append hl hook payload.text account
  cases hw : o.bus.waiting with
  | some ds =>
    simp only [Outbox.dispatch, dispatchedAtOnce, hw, List.append_nil]
    refine ⟨.single happend, h.retries, h.reach, ?_⟩
    simpa [pending, hw] using howes
  | none =>
    simp only [pending, hw, Option.getD_none, List.map_nil, List.nil_append] at howes
    obtain ⟨registry, entries, status, hd⟩ := deliver_eq
      (o := { o with journal := o.journal.append hook payload.text account })
      (h.retries ▸ hM) context ⟨o.journal.nextId, hook, payload⟩
    obtain ⟨hstep, -⟩ := howes.deliver M (outcome context ⟨o.journal.nextId, hook, payload⟩
      { o with journal := o.journal.append hook payload.text account }) earlier
      (past ++ [⟨hook, payload.text, account⟩])
    simp only [Outbox.dispatch, dispatchedAtOnce, hw, hd]
    rw [h.retries]
    exact ⟨.tail (.single happend) hstep, rfl, h.reach, .nil _⟩

/-! ## The worker -/

/-- What the worker does next: it delivers what has waited longest. -/
def work (context : LogContext) (o : Outbox) : Outbox × Transcript :=
  match o.bus.waiting with
  | some (d :: rest) =>
    let (o, entries) := flushAll context [d] o
    ({ o with bus := { o.bus with waiting := some rest } }, entries)
  | _ => (o, [])

/-- The delivery that the worker makes next, if one waits. -/
def worked (o : Outbox) : List Delivered :=
  match o.bus.waiting with
  | some (d :: _) => [o.delivered .empty d]
  | _ => []

/-- The worker delivers one event that waits. -/
theorem Ready.work (hM : Journal.fits M) (h : o.Ready M) (context : LogContext) :
    Leads M o o.worked [] (o.work context).1 := by
  intro earlier past hl
  rw [List.append_nil]
  match hw : o.bus.waiting with
  | none =>
    simp only [Outbox.work, worked, hw, List.append_nil]
    exact ⟨.refl, h⟩
  | some [] =>
    simp only [Outbox.work, worked, hw, List.append_nil]
    exact ⟨.refl, h⟩
  | some (d :: rest) =>
    have howes := h.waiting
    simp only [pending, hw, Option.getD_some, List.map_cons] at howes
    obtain ⟨registry, hd⟩ := flushAll_singleton (h.retries ▸ hM) h.reach context d
    obtain ⟨hstep, hrest⟩ := howes.deliver M (o.outcome .empty d) earlier past
    simp only [Outbox.work, worked, hw, hd]
    rw [h.retries]
    exact ⟨.single hstep, rfl, h.reach, hrest⟩

/-- The outbox with other deliveries waiting. -/
def withWaiting (o : Outbox) (waiting : Option (List Delivery)) : Outbox :=
  { o with bus := { o.bus with waiting } }

/-- A delivery does not look at what waits. -/
theorem deliver_withWaiting (context : LogContext) (d : Delivery)
    (waiting : Option (List Delivery)) (o : Outbox) :
    (o.withWaiting waiting).deliver context d =
      ((o.deliver context d).1.withWaiting waiting, (o.deliver context d).2) := by
  unfold deliver withWaiting
  obtain ⟨registry, entries, result⟩ := o.bus.registry.callNamed context d.hook d.payload
  cases result with
  | ok => rfl
  | error e =>
    by_cases hM : Journal.fits o.bus.maxRetries = true
    · simp only [withRegistry, fail, hM, if_true]
    · simp only [withRegistry, hM]
      rfl

/-- A flush does not look at what waits. -/
theorem flushAll_withWaiting (context : LogContext) (waiting : Option (List Delivery))
    (ds : List Delivery) (o : Outbox) :
    (flushAll context ds (o.withWaiting waiting)).1 =
      (flushAll context ds o).1.withWaiting waiting := by
  induction ds generalizing o with
  | nil => rfl
  | cons d rest ih =>
    have hone : (flushAll context [d] (o.withWaiting waiting)).1 =
        (flushAll context [d] o).1.withWaiting waiting := by
      simp only [flushAll, deliver_withWaiting]
      obtain ⟨delivered, entries, result⟩ := o.deliver .empty d
      cases result with
      | error => rfl
      | ok =>
        by_cases hr : o.bus.journalInReach = true
        · simp only [withWaiting, hr, if_true]
        · simp only [withWaiting, hr]
          rfl
    rw [flushAll_cons, flushAll_cons context d rest o, hone, ih]

/-- Flushing is the worker working until nothing waits. -/
theorem flush_eq_work (context : LogContext) (o : Outbox) :
    (o.flush context).1 = (fun o => (o.work context).1)^[o.pending.length] o := by
  match hw : o.bus.waiting with
  | none => simp [Outbox.flush, pending, hw]
  | some ds =>
    simp only [Outbox.flush, pending, hw, Option.getD_some]
    induction ds generalizing o with
    | nil =>
      obtain ⟨journal, registry, maxRetries, waiting, reach⟩ := o
      obtain rfl : waiting = some [] := hw
      rfl
    | cons d rest ih =>
      have hone : (o.work context).1 = (flushAll context [d] o).1.withWaiting (some rest) := by
        simp only [work, hw]
        rfl
      rw [List.length_cons, Function.iterate_succ_apply, ← ih _ (by rw [hone]; rfl), hone,
        flushAll_withWaiting, flushAll_cons]
      rfl

end Outbox

end Voicemail
