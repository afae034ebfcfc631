import Voicemail.Proofs.Outbox.Effects

/-!
# Trials

Every attempt to deliver an event is a `Trial`: one delivery, by the worker or not, from an outbox
as it was at that moment. `flushTrials`, `replayTrials`, `drainTrials`, `dispatchTrials` and
`workTrials` are the trials that the operations of an outbox make, each from where the one before it
led. They are all the deliveries (`replayed_eq_map`) and all the plugin calls (`replayAll_hooks`)
that there are, and what a trial preserves an operation preserves (`flushTrials_invariant`,
`replayTrials_invariant`).
-/

namespace Voicemail

/-- One attempt to deliver an event. -/
structure Trial where
  context : LogContext
  /-- Whether the worker makes it, who may not reach the journal. -/
  byWorker : Bool
  /-- The outbox before it. -/
  before : Outbox
  delivery : Delivery

namespace Trial

/-- The hook call of a trial: the plugins afterwards, what they did, and whether one failed. -/
def call (t : Trial) : Registry × Transcript × Except Failure Unit :=
  t.before.bus.registry.callNamed t.context t.delivery.hook t.delivery.payload

/-- The plugin calls of a trial. -/
def hooks (t : Trial) : Transcript := t.call.2.1.hooks

/-- The outbox after a trial. -/
def after (t : Trial) : Outbox :=
  if t.byWorker then (Outbox.flushAll t.context [t.delivery] t.before).1
  else (t.before.deliver t.context t.delivery).1

/-- A trial as the history of an outbox keeps it. -/
def delivered (t : Trial) : Delivered := t.before.delivered t.context t.delivery

/-- Whether what comes of a trial reaches the journal. -/
def reaches (t : Trial) : Bool := !t.byWorker || t.before.bus.journalInReach

/-- The plugins are left as the hook call leaves them, and its outcome is recorded if it reaches the
journal. -/
theorem after_eq (t : Trial) (h : t.byWorker = true → t.context = .empty) :
    t.after =
      ⟨if t.reaches then
          t.before.journal.record t.before.bus.maxRetries t.delivery
            (t.before.outcome t.context t.delivery)
        else t.before.journal,
        { t.before.bus with registry := t.call.1 }⟩ := by
  obtain ⟨context, byWorker, before, delivery⟩ := t
  cases byWorker with
  | false => exact Outbox.deliver_fst context delivery before
  | true =>
    obtain rfl : context = .empty := h rfl
    have hflush := Outbox.flushAll_fst .empty delivery before
    rw [Outbox.deliver_fst] at hflush
    refine hflush.trans ?_
    simp only [reaches, Bool.not_true, Bool.false_or]
    split <;> rfl

end Trial

namespace Outbox

variable {context : LogContext} {o : Outbox}

/-! ## The trials of operations -/

/-- The trials in which some deliveries are flushed. -/
def flushTrials : List Delivery → Outbox → List Trial
  | [], _ => []
  | d :: rest, o => ⟨.empty, true, o, d⟩ :: flushTrials rest (Trial.after ⟨.empty, true, o, d⟩)

/-- The trials in which rows are replayed: one that cannot be recorded is the last. -/
def replayTrials (context : LogContext) : List Row → Outbox → List Trial
  | [], _ => []
  | r :: rest, o =>
    ⟨context, false, o, owed r⟩ ::
      match o.deliver context (owed r) with
      | (o, _, .ok _) => replayTrials context rest o
      | (_, _, .error _) => []

/-- The trials of a drain. -/
def drainTrials (context : LogContext) (o : Outbox) : List Trial :=
  flushTrials o.pending o ++
    replayTrials context (o.flush context).1.journal.replayable (o.flush context).1

/-- The trials of a dispatch. -/
def dispatchTrials (context : LogContext) (hook : String) (payload : Json)
    (account : Option String) (o : Outbox) : List Trial :=
  match o.bus.waiting with
  | some _ => []
  | none =>
    [⟨context, false, o.writing hook payload.text account, ⟨o.journal.nextId, hook, payload⟩⟩]

/-- The trial of the worker. -/
def workTrials (o : Outbox) : List Trial :=
  match o.bus.waiting with
  | some (d :: _) => [⟨.empty, true, o, d⟩]
  | _ => []

/-! ## Trials and deliveries -/

/-- Flushing one delivery is the worker's trial of it, whatever tags are bound. -/
theorem flushAll_after (context : LogContext) (d : Delivery) (o : Outbox) :
    (flushAll context [d] o).1 = Trial.after ⟨.empty, true, o, d⟩ :=
  (flushAll_fst context d o).trans (flushAll_fst .empty d o).symm

/-- The trials of a flush are its deliveries. -/
theorem flushed_eq_map (context : LogContext) (ds : List Delivery) (o : Outbox) :
    flushed context ds o = (flushTrials ds o).map Trial.delivered := by
  induction ds generalizing o with
  | nil => rfl
  | cons d rest ih =>
    rw [flushed, flushAll_after, ih]
    rfl

/-- The trials of a replay are its deliveries. -/
theorem replayed_eq_map (context : LogContext) (rs : List Row) (o : Outbox) :
    replayed context rs o = (replayTrials context rs o).map Trial.delivered := by
  induction rs generalizing o with
  | nil => rfl
  | cons r rest ih =>
    rw [replayed, replayTrials, List.map_cons]
    generalize o.deliver context (owed r) = delivery
    obtain ⟨o', entries, result⟩ := delivery
    cases result with
    | ok => exact congrArg _ (ih o')
    | error => rfl

/-- The trials of a drain are its deliveries. -/
theorem drained_eq_map (context : LogContext) (o : Outbox) :
    o.drained context = (o.drainTrials context).map Trial.delivered := by
  rw [drained, drainTrials, List.map_append, flushed_eq_map, replayed_eq_map]

/-- The trial of a dispatch, if it delivers at once, is its delivery. -/
theorem dispatchedAtOnce_eq_map (context : LogContext) (hook : String) (payload : Json)
    (account : Option String) (o : Outbox) :
    o.dispatchedAtOnce context hook payload account =
      (o.dispatchTrials context hook payload account).map Trial.delivered := by
  unfold dispatchedAtOnce dispatchTrials
  cases o.bus.waiting <;> rfl

/-- So is the trial of the worker, if anything waits. -/
theorem worked_eq_map (o : Outbox) : o.worked = o.workTrials.map Trial.delivered := by
  unfold worked workTrials
  match o.bus.waiting with
  | none | some [] | some (_ :: _) => rfl

/-! ## Trials and plugin calls -/

/-- The plugin calls of a flush are those of its trials. -/
theorem flushAll_hooks_eq (context : LogContext) (ds : List Delivery) (o : Outbox) :
    (flushAll context ds o).2.hooks = (flushTrials ds o).flatMap Trial.hooks := by
  induction ds generalizing o with
  | nil => rfl
  | cons d rest ih =>
    have hall : (flushAll context (d :: rest) o).2 =
        (flushAll context [d] o).2 ++ (flushAll context rest (flushAll context [d] o).1).2 := by
      simp only [flushAll, List.append_nil]
    rw [hall, Transcript.hooks_append, flushAll_after, ih, flushAll_hooks, deliver_hooks,
      flushTrials, List.flatMap_cons]
    rfl

/-- The plugin calls of a replay are those of its trials. -/
theorem replayAll_hooks (context : LogContext) (rs : List Row) (o : Outbox) :
    (replayAll context rs o).2.1.hooks = (replayTrials context rs o).flatMap Trial.hooks := by
  induction rs generalizing o with
  | nil => rfl
  | cons r rest ih =>
    have hhooks : (o.deliver context (owed r)).2.1.hooks =
        Trial.hooks ⟨context, false, o, owed r⟩ := deliver_hooks context (owed r) o
    rw [replayAll, replayTrials, List.flatMap_cons, ← hhooks]
    generalize o.deliver context (owed r) = delivery
    obtain ⟨o', entries, result⟩ := delivery
    cases result with
    | ok =>
      dsimp only
      rw [Transcript.hooks_append, ih]
    | error => exact (List.append_nil _).symm

/-- The plugin calls of a flush of what waits are those of its trials. -/
theorem flush_hooks (context : LogContext) (o : Outbox) :
    (o.flush context).2.hooks = (flushTrials o.pending o).flatMap Trial.hooks := by
  unfold flush pending
  cases o.bus.waiting with
  | none => rfl
  | some ds => exact flushAll_hooks_eq context ds o

/-- The plugin calls of a drain are those of its trials. -/
theorem drain_hooks (context : LogContext) (o : Outbox) :
    (o.drain context).2.1.hooks = (o.drainTrials context).flatMap Trial.hooks := by
  rw [drainTrials, List.flatMap_append, ← flush_hooks, ← replayAll_hooks]
  exact Transcript.hooks_append ..

/-- The plugin calls of a dispatch are those of its trials. -/
theorem dispatch_hooks (context : LogContext) (hook : String) (payload : Json)
    (account : Option String) (o : Outbox) :
    (o.dispatch context hook payload account).2.1.hooks =
      (o.dispatchTrials context hook payload account).flatMap Trial.hooks := by
  cases hw : o.bus.waiting with
  | none =>
    simp only [dispatch, dispatchTrials, hw]
    exact (deliver_hooks ..).trans (List.append_nil _).symm
  | some =>
    simp only [dispatch, dispatchTrials, hw]
    rfl

/-- The plugin calls of the worker are those of its trials. -/
theorem work_hooks (context : LogContext) (o : Outbox) :
    (o.work context).2.hooks = o.workTrials.flatMap Trial.hooks := by
  unfold work workTrials
  match o.bus.waiting with
  | none | some [] => rfl
  | some (d :: _) => exact flushAll_hooks_eq context [d] o

/-! ## What trials preserve -/

/-- What a trial by the worker preserves holds before every trial of a flush, and after the
flush. -/
theorem flushTrials_invariant {P : Outbox → Prop} {Q : Delivery → Prop}
    (hstep : ∀ o d, Q d → P o → P (Trial.after ⟨.empty, true, o, d⟩)) (context : LogContext)
    {ds : List Delivery} (hds : ∀ d ∈ ds, Q d) (h : P o) :
    (∀ t ∈ flushTrials ds o, t.byWorker = true ∧ t.context = .empty ∧ t.delivery ∈ ds ∧
      P t.before) ∧ P (flushAll context ds o).1 := by
  induction ds generalizing o with
  | nil => exact ⟨nofun, h⟩
  | cons d rest ih =>
    obtain ⟨htrials, hend⟩ := ih (fun d hd => hds d (.tail _ hd)) (hstep o d (hds d (.head _)) h)
    rw [flushAll_cons, flushAll_after]
    refine ⟨fun t ht => ?_, hend⟩
    obtain rfl | ht := List.mem_cons.1 ht
    · exact ⟨rfl, rfl, .head _, h⟩
    · obtain ⟨hworker, hcontext, hmem, hbefore⟩ := htrials t ht
      exact ⟨hworker, hcontext, .tail _ hmem, hbefore⟩

/-- What a trial preserves holds before every trial of a replay, and after the replay. -/
theorem replayTrials_invariant {P : Outbox → Prop} {Q : Row → Prop}
    (hstep : ∀ o r, Q r → P o → P (Trial.after ⟨context, false, o, owed r⟩))
    {rs : List Row} (hrs : ∀ r ∈ rs, Q r) (h : P o) :
    (∀ t ∈ replayTrials context rs o, t.byWorker = false ∧ (∃ r ∈ rs, t.delivery = owed r) ∧
      P t.before) ∧ P (replayAll context rs o).1 := by
  induction rs generalizing o with
  | nil => exact ⟨nofun, h⟩
  | cons r rest ih =>
    have hafter : P (o.deliver context (owed r)).1 := hstep o r (hrs r (.head _)) h
    rw [replayTrials, replayAll]
    generalize o.deliver context (owed r) = delivery at hafter ⊢
    obtain ⟨o', entries, result⟩ := delivery
    cases result with
    | ok =>
      obtain ⟨htrials, hend⟩ := ih (fun r hr => hrs r (.tail _ hr)) hafter
      refine ⟨fun t ht => ?_, hend⟩
      obtain rfl | ht := List.mem_cons.1 ht
      · exact ⟨rfl, ⟨r, .head _, rfl⟩, h⟩
      · obtain ⟨hworker, ⟨r', hr', howed⟩, hbefore⟩ := htrials t ht
        exact ⟨hworker, ⟨r', .tail _ hr', howed⟩, hbefore⟩
    | error =>
      refine ⟨fun t ht => ?_, hafter⟩
      obtain rfl := List.mem_singleton.1 ht
      exact ⟨rfl, ⟨r, .head _, rfl⟩, h⟩

end Outbox

end Voicemail
