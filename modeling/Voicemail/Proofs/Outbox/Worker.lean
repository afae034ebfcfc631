import Voicemail.Proofs.Installation.Operations
import Voicemail.Proofs.Outbox.Effects

/-!
# The worker and synchronous delivery

With a worker a dispatch returns before its event is delivered. The worker takes what has waited
longest, calls its hook, and then settles its row, and dispatches may come at any time between
(`Shift.Move`). All the same nothing of that shows at a point where the client waits for the worker:
a run with a worker is always so many deliveries behind the run without one (`Shift.Behind`), and
these are what a flush makes up for. So journal, plugin calls and the report of a drain are those of
a client without a worker (`refinesSync_iff`). Only a failure that the journal cannot record, and a
journal that the worker does not reach, show.
-/

namespace Voicemail

open Client

/-! ## Shifts -/

/-- An outbox between two steps of its worker. -/
structure Shift where
  outbox : Outbox
  /-- The delivery whose hook was called and whose row is still to be settled, with what came of the
  call. -/
  inHand : Option (Delivery × Option String)
  /-- What was done so far. -/
  transcript : Transcript

namespace Shift

/-- What can happen. -/
inductive Move where
  | dispatch (hook : String) (payload : Json) (account : Option String)
  /-- The worker takes what has waited longest and calls its hook. -/
  | call
  /-- The worker settles the row of the delivery in its hands. -/
  | settle

/-- The worker takes the next delivery, unless it has one in its hands, and calls its hook. -/
def call (s : Shift) : Shift :=
  match s.inHand, s.outbox.bus.waiting with
  | none, some (d :: rest) =>
    let called := s.outbox.bus.registry.callNamed .empty d.hook d.payload
    { outbox := (s.outbox.withRegistry called.1).withWaiting (some rest)
      inHand := some (d, s.outbox.outcome .empty d)
      transcript := s.transcript ++ called.2.1 }
  | _, _ => s

/-- The worker settles the row of the delivery in its hands, if it reaches the journal. -/
def settle (s : Shift) : Shift :=
  match s.inHand with
  | none => s
  | some (d, outcome) =>
    { s with
      outbox :=
        if s.outbox.bus.journalInReach then
          { s.outbox with journal := s.outbox.journal.record s.outbox.bus.maxRetries d outcome }
        else s.outbox
      inHand := none }

/-- An event is dispatched. -/
def dispatch (context : LogContext) (hook : String) (payload : Json) (account : Option String)
    (s : Shift) : Shift :=
  let (o, entries, _) := s.outbox.dispatch context hook payload account
  { s with outbox := o, transcript := s.transcript ++ entries }

/-- A shift after a move. -/
def move (context : LogContext) (s : Shift) : Move → Shift
  | .dispatch hook payload account => s.dispatch context hook payload account
  | .call => s.call
  | .settle => s.settle

/-- A shift after some moves. -/
def run (context : LogContext) (moves : List Move) (s : Shift) : Shift :=
  moves.foldl (move context) s

/-- A shift on a bus that was just started: with nothing waiting for a worker, or without one. -/
def start (registry : Registry) (journal : Journal) (M : Int) (durable : Bool)
    (waiting : Option (List Delivery)) : Shift :=
  ⟨⟨journal, { registry, maxRetries := M, waiting, journalInReach := durable }⟩, none, []⟩

variable {s s' : Shift} {context : LogContext} {d : Delivery} {rest : List Delivery}
  {outcome : Option String}

/-- A worker with nothing in its hands has nothing to settle. -/
theorem settle_none (h : s.inHand = none) : s.settle = s := by
  simp only [settle, h]

/-- A worker that reaches the journal settles the row of what it has in its hands. -/
theorem settle_some (h : s.inHand = some (d, outcome)) (hr : s.outbox.bus.journalInReach) :
    s.settle =
      { s with
        outbox := { s.outbox with
          journal := s.outbox.journal.record s.outbox.bus.maxRetries d outcome }
        inHand := none } := by
  simp only [settle, h, hr, if_true]

/-- After that its hands are empty. -/
theorem inHand_settle (s : Shift) : s.settle.inHand = none := by
  cases h : s.inHand with
  | none => rw [settle_none h, h]
  | some => simp only [settle, h]

/-- A worker with empty hands takes up the first delivery that waits. -/
theorem call_cons (free : s.inHand = none) (hw : s.outbox.bus.waiting = some (d :: rest)) :
    s.call =
      { outbox := (s.outbox.withRegistry
          (s.outbox.bus.registry.callNamed .empty d.hook d.payload).1).withWaiting (some rest)
        inHand := some (d, s.outbox.outcome .empty d)
        transcript := s.transcript ++
          (s.outbox.bus.registry.callNamed .empty d.hook d.payload).2.1 } := by
  simp only [call, free, hw]

/-- The worker has nothing to take up, or its hands are full. -/
theorem call_eq_self (h : ∀ d rest, s.inHand = none → s.outbox.bus.waiting ≠ some (d :: rest)) :
    s.call = s := by
  unfold call
  split
  next free hw => exact absurd hw (h _ _ free)
  next => rfl

/-- A call and the settling of its row are what the worker does at a time. -/
theorem settle_call (context : LogContext) (free : s.inHand = none) :
    s.call.settle.outbox = (s.outbox.work context).1 := by
  match hw : s.outbox.bus.waiting with
  | none | some [] =>
    rw [call_eq_self (by simp [hw]), settle_none free]
    simp only [Outbox.work, hw]
  | some (d :: rest) =>
    simp only [Outbox.work, hw, call_cons free hw, settle, Outbox.flushAll_fst, Outbox.deliver_fst]
    cases hr : s.outbox.bus.journalInReach <;>
      simp [Outbox.withRegistry, Outbox.withWaiting, hr]

/-! ## How far the worker is behind -/

/-- The deliveries that a shift has still to make, made without a worker: the outbox afterwards, and
all the plugin calls. -/
def finished (s : Shift) : Outbox × Transcript :=
  s.settle.outbox.pending.foldl Outbox.carry
    (s.settle.outbox.withWaiting none, s.settle.transcript.hooks)

/-- The rows of the deliveries that a shift has still to make are in the journal. -/
structure Known (s : Shift) : Prop where
  inHand : ∀ d outcome, s.inHand = some (d, outcome) → d.id ≤ s.outbox.journal.rows.length
  pending : ∀ d ∈ s.outbox.pending, d.id ≤ s.outbox.journal.rows.length

/-- A shift with a worker is behind one without: its deliveries have still to be made, and then both
are the same. -/
structure Behind (s s' : Shift) : Prop where
  reach : s.outbox.bus.journalInReach = true
  queued : s.outbox.bus.waiting.isSome
  known : s.Known
  free : s'.inHand = none
  direct : s'.outbox.bus.waiting = none
  caughtUp : s.finished = (s'.outbox, s'.transcript.hooks)

/-- The worker settles a row: that was still to be done. -/
theorem finished_settle (s : Shift) : s.settle.finished = s.finished := by
  simp only [finished, settle_none (inHand_settle s)]

/-- What is left after a call is settled. -/
theorem settle_call_cons (hr : s.outbox.bus.journalInReach) (free : s.inHand = none)
    (hw : s.outbox.bus.waiting = some (d :: rest)) :
    s.call.settle =
      { outbox := (s.outbox.deliver .empty d).1.withWaiting (some rest)
        inHand := none
        transcript := s.transcript ++
          (s.outbox.bus.registry.callNamed .empty d.hook d.payload).2.1 } := by
  have hcall := call_cons free hw
  rw [settle_some (d := d) (by rw [hcall])
    (by rw [hcall]; exact hr), hcall, Outbox.deliver_fst]
  rfl

/-- The worker calls a hook: that was still to be done. -/
theorem finished_call (hr : s.outbox.bus.journalInReach) : s.call.finished = s.finished := by
  by_cases h : ∃ d rest, s.inHand = none ∧ s.outbox.bus.waiting = some (d :: rest)
  · obtain ⟨d, rest, free, hw⟩ := h
    have hpending : s.outbox.pending = d :: rest := by
      simp only [Outbox.pending, hw, Option.getD_some]
    simp only [finished, settle_call_cons hr free hw, settle_none free, hpending, List.foldl_cons,
      Outbox.carry, Outbox.deliver_withWaiting, Outbox.deliver_hooks, Transcript.hooks_append]
    rfl
  · rw [call_eq_self fun d rest free hw => h ⟨d, rest, free, hw⟩]

/-- An event is dispatched to a worker: it is written to the journal and waits. -/
theorem dispatch_queued {waiting : List Delivery} (hw : s.outbox.bus.waiting = some waiting)
    (context : LogContext) (hook : String) (payload : Json) (account : Option String) :
    s.dispatch context hook payload account =
      { s with
        outbox := (s.outbox.writing hook payload.text account).withWaiting
          (some (waiting ++ [⟨s.outbox.journal.nextId, hook, payload⟩])) } := by
  simp only [dispatch, Outbox.dispatch, hw, List.append_nil]
  rfl

/-- An event that is written before or after a row is settled is the same. -/
theorem settle_writing (hk : s.Known) (hr : s.outbox.bus.journalInReach) (hook payload : String)
    (account : Option String) (waiting : Option (List Delivery)) :
    settle { s with outbox := (s.outbox.writing hook payload account).withWaiting waiting } =
      { s.settle with
        outbox := (s.settle.outbox.writing hook payload account).withWaiting waiting } := by
  obtain ⟨o, inHand, transcript⟩ := s
  cases inHand with
  | none => rfl
  | some x =>
    obtain ⟨d, outcome⟩ := x
    have hreach : o.bus.journalInReach = true := hr
    have happend := Journal.record_append o.bus.maxRetries outcome (hk.inHand d outcome rfl)
      hook payload account
    simp only [settle, Outbox.writing, Outbox.withWaiting, hreach, if_true, happend]

/-- Settling a row neither adds nor removes one, and nothing that waits is touched. -/
theorem length_settle (s : Shift) :
    s.settle.outbox.journal.rows.length = s.outbox.journal.rows.length ∧
      s.settle.outbox.bus = s.outbox.bus := by
  obtain ⟨o, inHand, transcript⟩ := s
  cases inHand with
  | none => exact ⟨rfl, rfl⟩
  | some x =>
    simp only [settle]
    split
    · exact ⟨Journal.length_record .., rfl⟩
    · exact ⟨rfl, rfl⟩

/-- An event is dispatched to the worker: it is to be delivered after all that was still to be
done. -/
theorem finished_dispatch (hw : s.outbox.bus.waiting.isSome) (hr : s.outbox.bus.journalInReach)
    (hk : s.Known) (context : LogContext) (hook : String) (payload : Json)
    (account : Option String) :
    (s.dispatch context hook payload account).finished =
      Outbox.carry (s.finished.1.writing hook payload.text account, s.finished.2)
        ⟨s.outbox.journal.nextId, hook, payload⟩ := by
  obtain ⟨waiting, hw⟩ := Option.isSome_iff_exists.1 hw
  obtain ⟨hlength, hbus⟩ := s.length_settle
  have hpending : s.settle.outbox.pending = waiting := by
    rw [Outbox.pending, hbus, hw, Option.getD_some]
  have hds : ∀ d ∈ waiting, d.id ≤ s.settle.outbox.journal.rows.length := by
    rw [hlength]
    have hpending := hk.pending
    rwa [Outbox.pending, hw, Option.getD_some] at hpending
  have hfold := Outbox.foldl_carry_writing hook payload.text account
    (x := (s.settle.outbox.withWaiting none, s.settle.transcript.hooks)) hds
  rw [dispatch_queued hw, finished, settle_writing hk hr, finished, hpending, ← hfold]
  exact List.foldl_append ..

/-- An event is dispatched without a worker: it is written to the journal and delivered. -/
theorem dispatch_direct (hw : s.outbox.bus.waiting = none) (context : LogContext) (hook : String)
    (payload : Json) (account : Option String) :
    ((s.dispatch context hook payload account).outbox,
        (s.dispatch context hook payload account).transcript.hooks) =
      Outbox.carry (s.outbox.writing hook payload.text account, s.transcript.hooks)
        ⟨s.outbox.journal.nextId, hook, payload⟩ := by
  rw [Outbox.carry_context context]
  simp only [dispatch, Outbox.dispatch, hw, Transcript.hooks_append]
  rfl

/-- Finishing what waits adds no row. -/
theorem length_finished (s : Shift) :
    s.finished.1.journal.rows.length = s.outbox.journal.rows.length := by
  rw [finished, Outbox.length_foldl_carry, ← s.length_settle.1]
  rfl

/-- A row was known before, and stays so when there are more. -/
theorem Known.dispatch (hk : s.Known) {waiting : List Delivery}
    (hw : s.outbox.bus.waiting = some waiting) (context : LogContext) (hook : String)
    (payload : Json) (account : Option String) :
    (s.dispatch context hook payload account).Known := by
  have hlength : ((s.outbox.writing hook payload.text account).withWaiting
      (some (waiting ++ [⟨s.outbox.journal.nextId, hook, payload⟩]))).journal.rows.length =
        s.outbox.journal.rows.length + 1 := by
    simp [Outbox.writing, Outbox.withWaiting, Journal.append]
  rw [dispatch_queued hw]
  refine ⟨fun d outcome hd => ?_, fun d hd => ?_⟩
  · have hle := hk.inHand d outcome hd
    rw [hlength]
    omega
  · rw [hlength]
    have hpending := hk.pending
    rw [Outbox.pending, hw, Option.getD_some] at hpending
    obtain hd | hd := List.mem_append.1 hd
    · have hle := hpending d hd
      omega
    · rw [List.mem_singleton.1 hd, Journal.nextId]

/-- A dispatch keeps the worker as far behind as it was, but for one delivery. -/
theorem Behind.dispatch (h : Behind s s') (context : LogContext) (hook : String) (payload : Json)
    (account : Option String) :
    Behind (s.dispatch context hook payload account)
      (s'.dispatch context hook payload account) := by
  obtain ⟨waiting, hw⟩ := Option.isSome_iff_exists.1 h.queued
  have hid : s.outbox.journal.nextId = s'.outbox.journal.nextId := by
    rw [Journal.nextId, Journal.nextId, ← length_finished, h.caughtUp]
  have hfinished : (s.dispatch context hook payload account).finished =
      ((s'.dispatch context hook payload account).outbox,
        (s'.dispatch context hook payload account).transcript.hooks) := by
    rw [finished_dispatch h.queued h.reach h.known, h.caughtUp, hid, dispatch_direct h.direct]
  refine ⟨?_, ?_, h.known.dispatch hw context hook payload account, h.free, ?_, hfinished⟩
  · rw [dispatch_queued hw]
    exact h.reach
  · rw [dispatch_queued hw]
    rfl
  · have houtbox := congrArg Prod.fst (dispatch_direct h.direct context hook payload account)
    simp only [Outbox.carry, Outbox.deliver_fst] at houtbox
    rw [houtbox]
    exact h.direct

/-- The worker takes up a delivery whose row is known. -/
theorem Known.call (hk : s.Known) : s.call.Known := by
  by_cases h : ∃ d rest, s.inHand = none ∧ s.outbox.bus.waiting = some (d :: rest)
  · obtain ⟨d, rest, free, hw⟩ := h
    have hpending := hk.pending
    rw [Outbox.pending, hw, Option.getD_some] at hpending
    rw [call_cons free hw]
    refine ⟨fun e outcome he => ?_, fun e he => hpending e (.tail _ he)⟩
    cases he
    exact hpending d (.head _)
  · rwa [call_eq_self fun d rest free hw => h ⟨d, rest, free, hw⟩]

/-- The worker calls a hook, and is not further behind for that. -/
theorem Behind.call (h : Behind s s') : Behind s.call s'.call := by
  have hcall : s'.call = s' := call_eq_self (by simp [h.direct])
  rw [hcall]
  refine ⟨?_, ?_, h.known.call, h.free, h.direct, (finished_call h.reach).trans h.caughtUp⟩
  all_goals
    unfold Shift.call
    split
  · exact h.reach
  · exact h.reach
  · rfl
  · exact h.queued

/-- The worker settles a row, and is not further behind for that. -/
theorem Behind.settle (h : Behind s s') : Behind s.settle s'.settle := by
  obtain ⟨hlength, hbus⟩ := s.length_settle
  rw [settle_none h.free]
  refine ⟨?_, ?_, ⟨fun d outcome hd => ?_, fun d hd => ?_⟩, h.free, h.direct,
    (finished_settle s).trans h.caughtUp⟩
  · rw [hbus]
    exact h.reach
  · rw [hbus]
    exact h.queued
  · rw [inHand_settle] at hd
    cases hd
  · rw [Outbox.pending, hbus] at hd
    rw [hlength]
    exact h.known.pending d hd

/-- Whatever happens next, the worker is behind as before. -/
theorem Behind.move (h : Behind s s') (context : LogContext) (m : Move) :
    Behind (s.move context m) (s'.move context m) := by
  cases m with
  | dispatch hook payload account => exact h.dispatch context hook payload account
  | call => exact h.call
  | settle => exact h.settle

/-- Whatever happens, the worker is behind a run without one. -/
theorem Behind.run (h : Behind s s') (context : LogContext) (moves : List Move) :
    Behind (s.run context moves) (s'.run context moves) := by
  induction moves generalizing s s' with
  | nil => exact h
  | cons m rest ih => exact ih (h.move context m)

/-- At the start nothing is to be done. -/
theorem behind_start (registry : Registry) (journal : Journal) (M : Int) :
    Behind (start registry journal M true (some [])) (start registry journal M true none) where
  reach := rfl
  queued := rfl
  known := ⟨by simp [start], by simp [start, Outbox.pending]⟩
  free := rfl
  direct := rfl
  caughtUp := rfl

end Shift

/-! ## Flush points -/

/-- The operations that wait for the worker. -/
inductive FlushPoint where
  | drain
  | shutdown
  | close

/-- What a client does at a flush point. Only a drain has something to report. -/
def FlushPoint.act : FlushPoint → ClientM (List Replay)
  | .drain => Client.drain
  | .shutdown => do
    Client.shutdown
    return []
  | .close => do
    Client.close
    return []

/-- A client gets to a flush point at the end of a shift, when the worker has settled what it had in
its hands. -/
def Shift.arrive (point : FlushPoint) (c : Client) (s : Shift) :
    Except Failure (List Replay) × Client :=
  point.act (c.withOutbox s.settle.outbox s.settle.transcript)

/-- Two clients have come to the same: they report the same, and rows, plugins and plugin calls are
the same. -/
structure SameOutcome (x y : Except Failure (List Replay) × Client) : Prop where
  result : x.1 = y.1
  rows : x.2.journal = y.2.journal
  plugins : x.2.bus.map (·.registry) = y.2.bus.map (·.registry)
  hooks : x.2.transcript.hooks = y.2.transcript.hooks

namespace Client

/-- What a drain comes to. -/
theorem drain_withOutbox (o : Outbox) (entries : Transcript) (c : Client) :
    FlushPoint.drain.act (c.withOutbox o entries) =
      ((o.drain c.context).2.2,
        (c.withOutbox o entries).withOutbox (o.drain c.context).1 (o.drain c.context).2.1) :=
  onOutbox_some rfl "drain" Outbox.drain

/-- What stopping the worker comes to. -/
theorem shutdown_withOutbox (o : Outbox) (entries : Transcript) (c : Client) :
    FlushPoint.shutdown.act (c.withOutbox o entries) =
      (.ok [], (c.withOutbox o entries).withOutbox (o.shutdown c.context).1
        (o.shutdown c.context).2) := by
  have hshutdown : Client.shutdown (c.withOutbox o entries) = (.ok (),
      (c.withOutbox o entries).withOutbox (o.shutdown c.context).1 (o.shutdown c.context).2) :=
    onOutbox_some (c := c.withOutbox o entries) rfl "shutdown" fun context o =>
      ((o.shutdown context).1, (o.shutdown context).2, .ok ())
  exact bind_ok hshutdown

/-- What closing comes to: the worker is stopped, and the bus given up. -/
theorem close_withOutbox (o : Outbox) (entries : Transcript) (c : Client) :
    FlushPoint.close.act (c.withOutbox o entries) =
      (.ok [], { (c.withOutbox o entries).withOutbox (o.shutdown c.context).1
        (o.shutdown c.context).2 with bus := none }) := by
  have hshutdown : Client.shutdown (c.withOutbox o entries) = (.ok (),
      (c.withOutbox o entries).withOutbox (o.shutdown c.context).1 (o.shutdown c.context).2) :=
    onOutbox_some (c := c.withOutbox o entries) rfl "shutdown" fun context o =>
      ((o.shutdown context).1, (o.shutdown context).2, .ok ())
  have hclose := close_some (c := c.withOutbox o entries) rfl
  rw [hshutdown] at hclose
  exact bind_ok hclose

end Client

namespace Shift

variable {s s' : Shift}

/-- A flush makes up for all that the worker is behind. -/
theorem Behind.flush (h : Behind s s') (context : LogContext) :
    (s.settle.outbox.flush context).1 = s'.outbox.withWaiting (some []) ∧
      s.settle.transcript.hooks ++ (s.settle.outbox.flush context).2.hooks =
        s'.transcript.hooks := by
  obtain ⟨waiting, hw⟩ := Option.isSome_iff_exists.1 h.settle.queued
  have hfold := Outbox.flushAll_eq_foldl h.settle.reach context waiting s.settle.transcript.hooks
  have hfinished := h.caughtUp
  rw [finished, Outbox.pending, hw, Option.getD_some, Outbox.foldl_carry_withWaiting none
    (s.settle.outbox, s.settle.transcript.hooks), ← hfold] at hfinished
  simp only [Prod.mk.injEq] at hfinished
  simp only [Outbox.flush, hw]
  refine ⟨?_, hfinished.2⟩
  rw [← hfinished.1]
  rfl

/-- Without a worker there is nothing to flush. -/
theorem Behind.flush_direct (h : Behind s s') (context : LogContext) :
    s'.outbox.flush context = (s'.outbox, []) := by
  simp only [Outbox.flush, h.direct]

/-- At a flush point a client with a worker comes to the same as one without. -/
theorem Behind.arrive_same (h : Behind s s') (point : FlushPoint) (c : Client) :
    SameOutcome (s.arrive point c) (s'.arrive point c) := by
  obtain ⟨hflush, hhooks⟩ := h.flush c.context
  have hdirect := h.flush_direct c.context
  have hsettle := settle_none h.free
  -- The worker makes at the flush the calls that were made before without one.
  have hall (more : Transcript) :
      (c.transcript ++ s.settle.transcript ++ ((s.settle.outbox.flush c.context).2 ++ more)).hooks =
        (c.transcript ++ s'.transcript ++ ([] ++ more)).hooks := by
    simp only [Transcript.hooks_append, List.append_assoc, ← hhooks]
    rfl
  have hshutdown : (s.settle.outbox.shutdown c.context).1 =
      (s'.outbox.shutdown c.context).1 := by
    simp only [Outbox.shutdown, hflush, hdirect]
    rfl
  have hstopped : (c.transcript ++ s.settle.transcript ++
        (s.settle.outbox.shutdown c.context).2).hooks =
      (c.transcript ++ s'.transcript ++ (s'.outbox.shutdown c.context).2).hooks := by
    have hnone := hall []
    simp only [List.append_nil] at hnone
    simp only [Outbox.shutdown, hdirect, List.append_nil]
    exact hnone
  cases point with
  | drain =>
    simp only [arrive, drain_withOutbox, Outbox.drain, hflush, hsettle, hdirect,
      Outbox.replayAll_withWaiting]
    exact ⟨rfl, rfl, rfl, hall _⟩
  | shutdown =>
    simp only [arrive, shutdown_withOutbox, hshutdown, hsettle]
    exact ⟨rfl, rfl, rfl, hstopped⟩
  | close =>
    simp only [arrive, close_withOutbox, hshutdown, hsettle]
    exact ⟨rfl, rfl, rfl, hstopped⟩

end Shift

/-! ## Rows of dispatched events -/

/-- After the first rows a journal has those of some events, and none of them is pending. -/
structure Journal.Holds (first : Nat) (events : List JournaledEvent) (j : Journal) : Prop where
  bound : first ≤ j.rows.length
  events : (j.rows.drop first).map Row.journaled = events
  started : ∀ r ∈ j.rows.drop first, r.status ≠ .pending

namespace Journal.Holds

variable {first : Nat} {events : List JournaledEvent} {j : Journal} {M : Int}
  {outcome : Option String}

/-- At first there are no rows after the first ones. -/
theorem refl (j : Journal) : j.Holds j.rows.length [] :=
  ⟨Nat.le_refl _, by simp, by simp⟩

/-- Settling a row makes none pending. -/
theorem record (h : j.Holds first events) (M : Int) (d : Delivery) (outcome : Option String) :
    (j.record M d outcome).Holds first events := by
  unfold Journal.record
  split
  · refine ⟨by rw [length_update]; exact h.bound, ?_, fun r hr => ?_⟩
    · rw [update, ← List.map_drop, List.map_map, ← h.events]
      refine List.map_congr_left fun r _ => ?_
      simp only [Function.comp_apply]
      split <;> simp
    · rw [update, ← List.map_drop] at hr
      obtain ⟨q, hq, rfl⟩ := List.mem_map.1 hr
      split
      · exact Row.settle_ne_pending M outcome q
      · exact h.started q hq
  · exact h

/-- An event that is written and delivered has its row, and that is not pending, if what came of the
delivery can be recorded. -/
theorem dispatch (h : j.Holds first events) (hrecords : Journal.records M outcome)
    (hook payload : String) (account : Option String) {d : Delivery} (hd : d.id = j.nextId) :
    ((j.append hook payload account).record M d outcome).Holds first
      (events ++ [⟨hook, payload, account⟩]) := by
  let row : Row := ⟨j.nextId, hook, payload, account, .pending, none, 0, false⟩
  have hrows : ((j.append hook payload account).record M d outcome).rows =
      (j.record M d outcome).rows ++ [row.settle M outcome] := by
    simp [Journal.record, hrecords, update, append, hd, row]
  obtain ⟨hbound, hevents, hstarted⟩ := h.record M d outcome
  refine ⟨?_, ?_, fun r hr => ?_⟩
  · rw [hrows, List.length_append]
    omega
  · rw [hrows, List.drop_append_of_le_length hbound, List.map_append, hevents, List.map_singleton,
      Row.settle_journaled]
    rfl
  · rw [hrows, List.drop_append_of_le_length hbound] at hr
    obtain hr | hr := List.mem_append.1 hr
    · exact hstarted r hr
    · rw [List.mem_singleton.1 hr]
      exact Row.settle_ne_pending M outcome row

end Journal.Holds

/-- The event that a move dispatches, if it dispatches one. -/
def Shift.Move.event? : Move → Option JournaledEvent
  | .dispatch hook payload account => some ⟨hook, payload.text, account⟩
  | .call | .settle => none

namespace Shift

variable {s : Shift} {M : Int} {first : Nat} {events : List JournaledEvent}

/-- A shift without a worker, whose journal holds the events that were dispatched. -/
structure Direct (M : Int) (first : Nat) (events : List JournaledEvent) (s : Shift) : Prop where
  free : s.inHand = none
  waiting : s.outbox.bus.waiting = none
  retries : s.outbox.bus.maxRetries = M
  holds : s.outbox.journal.Holds first events

/-- A move without a worker: the event that it dispatches has its row. -/
theorem Direct.move (h : s.Direct M first events) (hM : Journal.fits M) (context : LogContext)
    (m : Move) : (s.move context m).Direct M first (events ++ m.event?.toList) := by
  cases m with
  | call =>
    have hcall : s.call = s := call_eq_self (by simp [h.waiting])
    simpa [Shift.move, hcall, Move.event?] using h
  | settle => simpa [Shift.move, settle_none h.free, Move.event?] using h
  | dispatch hook payload account =>
    have houtbox := congrArg Prod.fst (dispatch_direct h.waiting context hook payload account)
    simp only [Outbox.carry, Outbox.deliver_fst] at houtbox
    refine ⟨h.free, ?_, ?_, ?_⟩
    · show (s.dispatch context hook payload account).outbox.bus.waiting = none
      rw [houtbox]
      exact h.waiting
    · show (s.dispatch context hook payload account).outbox.bus.maxRetries = M
      rw [houtbox]
      exact h.retries
    · show (s.dispatch context hook payload account).outbox.journal.Holds first _
      rw [houtbox]
      refine h.holds.dispatch ?_ hook payload.text account rfl
      have hretries : (s.outbox.writing hook payload.text account).bus.maxRetries = M := h.retries
      rw [Journal.records, hretries, hM, Bool.or_true]

/-- A run without a worker: the events that it dispatches have their rows, in order. -/
theorem Direct.run (h : s.Direct M first events) (hM : Journal.fits M) (context : LogContext)
    (moves : List Move) :
    (s.run context moves).Direct M first (events ++ moves.filterMap Move.event?) := by
  induction moves generalizing s events with
  | nil => simpa [Shift.run] using h
  | cons m rest ih =>
    have hrest := ih (h.move hM context m)
    cases hm : m.event? with
    | none => simpa [Shift.run, hm] using hrest
    | some e => simpa [Shift.run, hm] using hrest

/-- Replaying rows makes none pending. -/
theorem replayAll_holds {o : Outbox} (h : o.journal.Holds first events) (context : LogContext)
    (rs : List Row) : (Outbox.replayAll context rs o).1.journal.Holds first events := by
  induction rs generalizing o with
  | nil => exact h
  | cons r rest ih =>
    have hone : (o.deliver context (Outbox.owed r)).1.journal.Holds first events := by
      rw [Outbox.deliver_fst]
      exact h.record ..
    simp only [Outbox.replayAll]
    generalize o.deliver context (Outbox.owed r) = delivery at hone ⊢
    obtain ⟨o', entries, result⟩ := delivery
    cases result with
    | error => exact hone
    | ok => exact ih hone

/-- At a flush point without a worker no dispatched event is pending. -/
theorem Direct.arrive_holds (h : s.Direct M first events) (point : FlushPoint) (c : Client) :
    (s.arrive point c).2.journal.Holds first events := by
  have hflush : s.outbox.flush c.context = (s.outbox, []) := by
    simp only [Outbox.flush, h.waiting]
  have hshutdown : (s.outbox.shutdown c.context).1.journal.Holds first events := by
    simp only [Outbox.shutdown, hflush]
    exact h.holds
  cases point with
  | drain =>
    simp only [arrive, drain_withOutbox, settle_none h.free, Outbox.drain, hflush]
    exact replayAll_holds h.holds c.context _
  | shutdown =>
    simp only [arrive, shutdown_withOutbox, settle_none h.free]
    exact hshutdown
  | close =>
    simp only [arrive, close_withOutbox, settle_none h.free]
    exact hshutdown

end Shift

namespace Outbox

variable {o : Outbox} {context : LogContext}

/-- Where nothing waits, stopping the worker changes nothing. -/
theorem shutdown_shutdown (context context' : LogContext) (o : Outbox) :
    (o.shutdown context).1.shutdown context' = ((o.shutdown context).1, []) := by
  simp only [shutdown, flush]

/-- What a dispatch comes to after the worker was stopped: the event has its row and is not
pending any more, and its hook was called, before the dispatch returns. -/
structure DeliversAtOnce (context : LogContext) (hook : String) (payload : Json)
    (account : Option String) (o : Outbox) : Prop where
  result : (o.dispatch context hook payload account).2.2 = .ok o.journal.nextId
  journaled : (o.dispatch context hook payload account).1.journal.Holds o.journal.rows.length
    [⟨hook, payload.text, account⟩]
  hooks : (o.dispatch context hook payload account).2.1.hooks =
    (o.bus.registry.callNamed context hook payload).2.1.hooks

/-- Without a worker an event is delivered before its dispatch returns, if what comes of the
delivery can be recorded. -/
theorem deliversAtOnce (hM : Journal.fits o.bus.maxRetries) (hw : o.bus.waiting = none)
    (context : LogContext) (hook : String) (payload : Json) (account : Option String) :
    o.DeliversAtOnce context hook payload account := by
  let d : Delivery := ⟨o.journal.nextId, hook, payload⟩
  let written : Outbox := o.writing hook payload.text account
  have hdispatch : o.dispatch context hook payload account =
      ((written.deliver context d).1, (written.deliver context d).2.1,
        (written.deliver context d).2.2.map fun _ => d.id) := by
    simp only [dispatch, hw]
    rfl
  have hrecords : Journal.records o.bus.maxRetries (written.outcome context d) = true := by
    rw [Journal.records, hM, Bool.or_true]
  refine ⟨?_, ?_, ?_⟩
  · have hok : (written.deliver context d).2.2.isOk = true :=
      (deliver_isOk context d written).trans hrecords
    rw [hdispatch]
    cases hresult : (written.deliver context d).2.2 with
    | ok => rfl
    | error => rw [hresult] at hok; cases hok
  · rw [hdispatch, deliver_fst]
    exact (Journal.Holds.refl o.journal).dispatch hrecords hook payload.text account rfl
  · rw [hdispatch]
    exact deliver_hooks context d written

end Outbox

/-! ## When the worker does not show -/

/-- A client with a worker does what one without does, for events given up after `M` failures and a
journal in a file or in memory: whatever is dispatched and however far the worker comes meanwhile,
at a flush point it has come to the same. -/
structure RefinesSync (M : Int) (durable : Bool) : Prop where
  same : ∀ registry journal c moves point,
    SameOutcome
      (((Shift.start registry journal M durable (some [])).run c.context moves).arrive point c)
      (((Shift.start registry journal M durable none).run c.context moves).arrive point c)
  /-- Every event that was dispatched has its row, in order, and is not pending. -/
  delivered : ∀ registry journal c moves point,
    (((Shift.start registry journal M durable (some [])).run c.context moves).arrive
      point c).2.journal.Holds journal.rows.length (moves.filterMap Shift.Move.event?)
  /-- To stop the worker again changes nothing. -/
  stopped : ∀ (o : Outbox) (context context' : LogContext),
    (o.shutdown context).1.shutdown context' = ((o.shutdown context).1, [])
  /-- When the worker is stopped, a dispatch delivers before it returns. -/
  late : ∀ (registry : Registry) (journal : Journal) (c : Client) (moves : List Shift.Move)
      (context : LogContext) (hook : String) (payload : Json) (account : Option String),
    ((((Shift.start registry journal M durable (some [])).run
      c.context moves).settle.outbox.shutdown c.context).1).DeliversAtOnce
        context hook payload account

/-- A plugin whose calls all fail. -/
def Plugin.failing : Plugin where
  label := "p"
  className := "Failing"
  hooks := [.postProvision]
  respond _ _ _ := some ⟨.runtime, "boom"⟩
  calls := 0

/-- The end of an attempt, as plugins see it. -/
def closingPayload : Json :=
  .obj [("account_id", .str "a"), ("protocol", .str "p"), ("action", .str "x"),
    ("outcome", .str "y")]

/-- The row of the first event, which waits for its first delivery. -/
def waitingRow : Row :=
  ⟨1, "post_provision", closingPayload.text, none, .pending, none, 0, false⟩

/-- A failure that cannot be recorded leaves its row pending. -/
theorem not_refinesSync_unfit {M : Int} {durable : Bool} (hM : Journal.fits M = false) :
    ¬RefinesSync M durable := by
  intro h
  let d : Delivery := ⟨1, "post_provision", closingPayload⟩
  let o : Outbox := ⟨⟨[waitingRow]⟩, { registry := { members := [("p", .plugin .failing)] }
                                       maxRetries := M, waiting := some [d]
                                       journalInReach := durable }⟩
  have hdelivered := h.delivered { members := [("p", .plugin .failing)] } .empty
    (.new { root := ⟨.root, []⟩, configPath := none } none [])
    [.dispatch "post_provision" closingPayload none] .shutdown
  have hfailed : o.outcome .empty d = some "boom" := rfl
  have hrecord : o.journal.record M d (o.outcome .empty d) = o.journal := by
    rw [hfailed, Journal.record, Journal.records, hM]
    rfl
  have hflush : (Outbox.flushAll .empty [d] o).1.journal = ⟨[waitingRow]⟩ := by
    rw [Outbox.flushAll_fst, Outbox.deliver_fst]
    split
    · exact hrecord
    · rfl
  change (Outbox.flushAll .empty [d] o).1.journal.Holds 0 _ at hdelivered
  rw [hflush] at hdelivered
  exact hdelivered.started waitingRow (.head _) rfl

/-- A journal in memory, which the worker does not reach, leaves a row pending that was
delivered. -/
theorem not_refinesSync_volatile {M : Int} : ¬RefinesSync M false := by
  intro h
  have hdelivered := h.delivered .empty .empty
    (.new { root := ⟨.root, []⟩, configPath := none } none [])
    [.dispatch "post_provision" closingPayload none] .shutdown
  exact hdelivered.started waitingRow (.head _) rfl

/-- Where failures can be recorded and the worker reaches the journal, the worker does not show. -/
theorem refinesSync {M : Int} (hM : Journal.fits M) : RefinesSync M true where
  same registry journal c moves point :=
    ((Shift.behind_start registry journal M).run c.context moves).arrive_same point c
  delivered registry journal c moves point := by
    have hbehind := (Shift.behind_start registry journal M).run c.context moves
    have hstart : (Shift.start registry journal M true none).Direct M journal.rows.length [] :=
      ⟨rfl, rfl, rfl, .refl journal⟩
    rw [(hbehind.arrive_same point c).rows]
    exact (hstart.run hM c.context moves).arrive_holds point c
  stopped o context context' := o.shutdown_shutdown context context'
  late registry journal c moves context hook payload account := by
    have hbehind := (Shift.behind_start registry journal M).run c.context moves
    have hstart : (Shift.start registry journal M true none).Direct M journal.rows.length [] :=
      ⟨rfl, rfl, rfl, .refl journal⟩
    refine Outbox.deliversAtOnce ?_ rfl context hook payload account
    have hretries := (hstart.run hM c.context moves).retries
    have hflush := (hbehind.flush c.context).1
    simp only [Outbox.shutdown, hflush]
    show Journal.fits (((Shift.start registry journal M true none).run
      c.context moves).outbox.bus.maxRetries) = true
    rwa [hretries]

/-- The worker does not show exactly if failures can be recorded and the worker reaches the
journal. -/
theorem refinesSync_iff (M : Int) (durable : Bool) :
    RefinesSync M durable ↔ Journal.fits M = true ∧ durable = true := by
  refine ⟨fun h => ⟨?_, ?_⟩, fun ⟨hM, hdurable⟩ => hdurable ▸ refinesSync hM⟩
  · by_contra hM
    exact not_refinesSync_unfit (by simpa using hM) h
  · by_contra hdurable
    obtain rfl : durable = false := by simpa using hdurable
    exact not_refinesSync_volatile h

/-- A greatest number of retries that takes 64 bits, and a journal in memory. -/
theorem not_refinesSync_overflow :
    ¬RefinesSync 9223372036854775808 true ∧ ¬RefinesSync 3 false :=
  ⟨not_refinesSync_unfit (by decide), not_refinesSync_volatile⟩

end Voicemail
