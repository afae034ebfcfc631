import Voicemail.Journal
import Voicemail.Json.Reader
import Voicemail.Plugin.Registry

/-!
# The outbox

Every event is written to the journal before a plugin sees it, so that none is lost. A delivery
calls the event's hook once and then records in the event's row how that went; what a plugin does
wrong reaches the journal and the log, and nobody else. Without a worker an event is delivered
before its dispatch returns. With one it waits, and `flush` does what the worker does: it delivers
what waits, oldest first. `drain` delivers again what the journal still owes.
-/

namespace Voicemail

/-- One delivery of an event. -/
structure Delivery where
  /-- The row of the event. -/
  id : Nat
  hook : String
  payload : Json

/-- Where events are delivered. -/
structure Bus where
  registry : Registry
  /-- After how many failures an event is given up. -/
  maxRetries : Int
  /-- The deliveries that wait for the worker, oldest first, if there is a worker. -/
  waiting : Option (List Delivery)
  /-- Whether the worker reaches the journal, which one that is kept in memory keeps from it. -/
  journalInReach : Bool := true

/-- The journal of events and the bus that delivers them. -/
structure Outbox where
  journal : Journal
  bus : Bus

/-- An event that was delivered again, with the status of its row afterwards. -/
structure Replay where
  id : Nat
  hook : String
  status : RowStatus
  deriving DecidableEq, Repr

/-- A replay as part of a report. -/
def Replay.toJson (r : Replay) : Json :=
  .obj [("id", .int r.id), ("hook_name", .str r.hook), ("status", .str r.status.name)]

namespace Bus

/-- A bus for plugins. Only a bus with a worker needs threads. -/
def start (registry : Registry) (synchronous : Bool) (maxRetries maxWorkers : Int) :
    Except Failure Bus :=
  if synchronous then .ok { registry, maxRetries, waiting := none }
  else if maxWorkers ≤ 0 then .error .noWorkers
  else .ok { registry, maxRetries, waiting := some [] }

end Bus

namespace Outbox

/-- Records that a delivery has succeeded. -/
def complete (o : Outbox) (id : Nat) : Outbox :=
  { o with journal := o.journal.update id Row.complete }

/-- Records that a delivery has failed. -/
def fail (o : Outbox) (id : Nat) (error : String) : Outbox :=
  { o with journal := o.journal.update id (Row.fail error o.bus.maxRetries) }

/-- The outbox with another registry. -/
def withRegistry (o : Outbox) (r : Registry) : Outbox :=
  { o with bus := { o.bus with registry := r } }

/-- A record of the outbox, which has the form of a finished message. -/
def record (level : LogLevel) (context : LogContext) (event : String) : Entry :=
  .record {
    level, logger := LogSource.eventBus.logger, plain := true, event, fields := [], context }

/-- Delivers an event: one call of its hook, then one entry in its row. An event whose hook no
plugin could implement is complete at once. -/
def deliver (context : LogContext) (d : Delivery) (o : Outbox) :
    Outbox × Transcript × Except Failure RowStatus :=
  let (registry, entries, result) := o.bus.registry.callNamed context d.hook d.payload
  let o := o.withRegistry registry
  match result with
  | .ok () => (o.complete d.id, entries, .ok .completed)
  | .error e =>
    let entries := entries ++
      [record .debug context s!"Hook {d.hook} failed for event {d.id}: {e.message}"]
    if Journal.fits o.bus.maxRetries then
      let o := o.fail d.id e.message
      (o, entries, .ok (o.journal.statusOf d.id))
    else (o, entries, .error .integerRange)

/-- Delivers what waits for the worker, oldest first. The worker knows no log context of its own;
a delivery that could not be recorded leaves a warning. -/
def flushAll (context : LogContext) : List Delivery → Outbox → Outbox × Transcript
  | [], o => (o, [])
  | d :: rest, o =>
    let unfinished := record .warning context "Event delivery did not finish"
    let (o, entries) := match o.deliver LogContext.empty d with
      | (delivered, entries, .ok _) =>
        if o.bus.journalInReach then (delivered, entries)
        else ({ delivered with journal := o.journal }, entries ++ [unfinished])
      | (delivered, entries, .error _) => (delivered, entries ++ [unfinished])
    let (o, more) := flushAll context rest o
    (o, entries ++ more)

/-- Delivers everything that waits. -/
def flush (context : LogContext) (o : Outbox) : Outbox × Transcript :=
  match o.bus.waiting with
  | none => (o, [])
  | some waiting =>
    let (o, entries) := flushAll context waiting o
    ({ o with bus := { o.bus with waiting := some [] } }, entries)

/-- Writes an event to the journal, then delivers it or leaves it to the worker. The result is the
id of its row. -/
def dispatch (context : LogContext) (hook : String) (payload : Json) (account : Option String)
    (o : Outbox) : Outbox × Transcript × Except Failure Nat :=
  let d : Delivery := ⟨o.journal.nextId, hook, payload⟩
  let o := { o with journal := o.journal.append hook payload.text account }
  match o.bus.waiting with
  | some waiting =>
    ({ o with bus := { o.bus with waiting := some (waiting ++ [d]) } }, [], .ok d.id)
  | none =>
    let (o, entries, result) := o.deliver context d
    (o, entries, result.map fun _ => d.id)

/-- The delivery that a row of the journal owes. -/
def owed (r : Row) : Delivery :=
  ⟨r.id, r.hook, (Json.restore? r.payload).getD .null⟩

/-- Delivers the events of rows again, in the order of the list. -/
def replayAll (context : LogContext) : List Row → Outbox →
    Outbox × Transcript × Except Failure (List Replay)
  | [], o => (o, [], .ok [])
  | r :: rest, o =>
    match o.deliver context (owed r) with
    | (o, entries, .error e) => (o, entries, .error e)
    | (o, entries, .ok status) =>
      let (o, more, result) := replayAll context rest o
      (o, entries ++ more, result.map (⟨r.id, r.hook, status⟩ :: ·))

/-- Delivers what waits, then everything that the journal still owes, oldest first. -/
def drain (context : LogContext) (o : Outbox) :
    Outbox × Transcript × Except Failure (List Replay) :=
  let (o, entries) := o.flush context
  let (o, more, result) := replayAll context o.journal.replayable o
  (o, entries ++ more, result)

/-- Delivers what waits and stops the worker; later events are delivered at once. -/
def shutdown (context : LogContext) (o : Outbox) : Outbox × Transcript :=
  let (o, entries) := o.flush context
  ({ o with bus := { o.bus with waiting := none } }, entries)

end Outbox

end Voicemail
