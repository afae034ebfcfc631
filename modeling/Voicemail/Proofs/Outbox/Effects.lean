import Voicemail.Proofs.Outbox.Deliveries

/-!
# What a delivery comes to

A delivery leaves three things behind: the row that it settled, the plugins as its hook call left
them, and the plugin calls that were made. Which log tags are bound shows in none of them
(`Outbox.carry_context`), neither does what else waits (`Outbox.carry_withWaiting`), and an event
that is written in between is only one row more (`Outbox.carry_writing`). Flushing is one delivery
after another (`Outbox.flushAll_eq_foldl`).
-/

namespace Voicemail

/-! ## Hook calls and log contexts -/

/-- The plugin calls of a transcript. -/
def Transcript.hooks (t : Transcript) : Transcript := t.filter Entry.isHook

/-- The plugin calls of a transcript and another one after it. -/
theorem Transcript.hooks_append (t u : Transcript) : (t ++ u).hooks = t.hooks ++ u.hooks :=
  List.filter_append ..

/-- Two hook calls come to the same: what they leave behind, which plugins they called with what,
and whether one failed. -/
structure SameCall {α : Type} (x y : α × Transcript × Except Failure Unit) : Prop where
  state : x.1 = y.1
  hooks : x.2.1.hooks = y.2.1.hooks
  result : x.2.2 = y.2.2

/-- A call comes to the same as itself. -/
theorem SameCall.refl {α : Type} (x : α × Transcript × Except Failure Unit) : SameCall x x :=
  ⟨rfl, rfl, rfl⟩

namespace Member

/-- Whether the event log can write a record does not depend on the tags that the record gets. -/
theorem eventLogRecord_context (front : LogFront) (context context' : LogContext) (h : Hook)
    (arguments : List Json) :
    (eventLogRecord front context h arguments).map (fun _ => ()) =
      (eventLogRecord front context' h arguments).map fun _ => () := by
  unfold eventLogRecord
  split
  · rename_i account protocol event detail
    cases detail with
    | obj members =>
      simp only [eventRecord]
      cases isGrave ((members.lookup "severity").getD .null) with
      | error => rfl
      | ok grave =>
        simp only [bind, Except.bind]
        generalize front.clash? _ _ _ = clash
        cases clash <;> rfl
    | _ => rfl
  · rfl
  · rfl

/-- A call of a member comes to the same with other tags. -/
theorem receive_context (context context' : LogContext) (h : Hook) (arguments : List Json)
    (m : Member) : SameCall (m.receive context h arguments) (m.receive context' h arguments) := by
  cases m with
  | eventLog front =>
    have hrecord := eventLogRecord_context front context context' h arguments
    simp only [receive]
    generalize eventLogRecord front context h arguments = written at hrecord ⊢
    generalize eventLogRecord front context' h arguments = written' at hrecord ⊢
    match written, written', hrecord with
    | .ok _, .ok _, _ => exact ⟨rfl, rfl, rfl⟩
    | .error _, .error _, rfl => exact .refl _
  | plugin p => exact .refl _
  | «class» => exact .refl _

end Member

namespace Registry

/-- A hook call on members comes to the same with other tags. -/
theorem callMembers_context (context context' : LogContext) (h : Hook)
    (payload : List (String × Json)) (members : List (String × Member)) :
    SameCall (callMembers context h payload members) (callMembers context' h payload members) := by
  induction members with
  | nil => exact .refl _
  | cons member rest ih =>
    obtain ⟨name, m⟩ := member
    unfold callMembers
    split
    · cases arguments h payload with
      | error => exact .refl _
      | ok values =>
        have hreceive := m.receive_context context context' h values
        dsimp only
        generalize m.receive context h values = received at hreceive ⊢
        generalize m.receive context' h values = received' at hreceive ⊢
        obtain ⟨m₁, entries, result⟩ := received
        obtain ⟨m₂, entries', result'⟩ := received'
        obtain ⟨rfl, hhooks, rfl⟩ := hreceive
        cases result with
        | error => exact ⟨rfl, hhooks, rfl⟩
        | ok =>
          refine ⟨?_, ?_, ih.result⟩
          · exact congrArg ((name, m₁) :: ·) ih.state
          · exact (Transcript.hooks_append ..).trans
              ((congrArg₂ (· ++ ·) hhooks ih.hooks).trans (Transcript.hooks_append ..).symm)
    · exact ⟨congrArg ((name, m) :: ·) ih.state, ih.hooks, ih.result⟩

/-- The call of a hook by its name comes to the same with other tags. -/
theorem callNamed_context (context context' : LogContext) (name : String) (payload : Json)
    (r : Registry) :
    SameCall (r.callNamed context name payload) (r.callNamed context' name payload) := by
  unfold callNamed
  split
  · exact .refl _
  next h named _ =>
    unfold call
    split
    · exact .refl _
    · have hmembers := callMembers_context context context' h named r.members.reverse
      exact ⟨by simp only [hmembers.state], hmembers.hooks, hmembers.result⟩
  · exact .refl _
  · exact .refl _

end Registry

/-! ## What a delivery comes to -/

/-- Whether an outcome can be recorded: a failure can be if the journal can compare with the
greatest number of retries. -/
def Journal.records (M : Int) (outcome : Option String) : Bool :=
  outcome.isNone || Journal.fits M

/-- The journal after a delivery: its row is settled by what came of the hook call, if that can be
recorded. -/
def Journal.record (M : Int) (d : Delivery) (outcome : Option String) (j : Journal) : Journal :=
  if Journal.records M outcome then j.update d.id (Row.settle M outcome) else j

namespace Journal

@[simp] theorem length_update (j : Journal) (id : Nat) (f : Row → Row) :
    (j.update id f).rows.length = j.rows.length :=
  List.length_map ..

@[simp] theorem length_record (M : Int) (d : Delivery) (outcome : Option String) (j : Journal) :
    (j.record M d outcome).rows.length = j.rows.length := by
  unfold record
  split
  · exact length_update ..
  · rfl

/-- A row that is written before or after another is settled is the same. -/
theorem record_append (M : Int) {d : Delivery} (outcome : Option String) {j : Journal}
    (hd : d.id ≤ j.rows.length) (hook payload : String) (account : Option String) :
    (j.append hook payload account).record M d outcome =
      (j.record M d outcome).append hook payload account := by
  have hne : ¬j.nextId = d.id := by
    simp only [nextId]
    omega
  have hid : (j.record M d outcome).nextId = j.nextId := by
    simp only [nextId, length_record]
  unfold append
  rw [hid]
  unfold record
  split
  · simp [update, hne]
  · rfl

end Journal

namespace Outbox

variable {o : Outbox} {context context' : LogContext} {d : Delivery}

/-- What comes of a hook call does not depend on the tags. -/
theorem outcome_context (context context' : LogContext) (d : Delivery) (o : Outbox) :
    o.outcome context d = o.outcome context' d := by
  unfold outcome
  rw [(o.bus.registry.callNamed_context context context' d.hook d.payload).result]

/-- What a delivery does to an outbox: the registry is left as the hook call leaves it, and its
outcome is recorded. -/
theorem deliver_fst (context : LogContext) (d : Delivery) (o : Outbox) :
    (o.deliver context d).1 =
      ⟨o.journal.record o.bus.maxRetries d (o.outcome context d),
        { o.bus with registry := (o.bus.registry.callNamed context d.hook d.payload).1 }⟩ := by
  unfold deliver outcome Journal.record Journal.records
  obtain ⟨registry, entries, result⟩ := o.bus.registry.callNamed context d.hook d.payload
  cases result with
  | ok => rfl
  | error e =>
    cases hM : Journal.fits o.bus.maxRetries with
    | true => simp only [withRegistry, hM, if_true]; rfl
    | false => simp only [withRegistry, hM]; rfl

/-- A delivery fails exactly if its outcome cannot be recorded. -/
theorem deliver_isOk (context : LogContext) (d : Delivery) (o : Outbox) :
    (o.deliver context d).2.2.isOk =
      Journal.records o.bus.maxRetries (o.outcome context d) := by
  unfold deliver outcome Journal.records
  obtain ⟨registry, entries, result⟩ := o.bus.registry.callNamed context d.hook d.payload
  cases result with
  | ok => rfl
  | error e =>
    cases hM : Journal.fits o.bus.maxRetries with
    | true => simp only [withRegistry, hM, if_true]; rfl
    | false => simp only [withRegistry, hM]; rfl

/-- The plugin calls of a delivery are those of its hook call. -/
theorem deliver_hooks (context : LogContext) (d : Delivery) (o : Outbox) :
    (o.deliver context d).2.1.hooks =
      (o.bus.registry.callNamed context d.hook d.payload).2.1.hooks := by
  unfold deliver
  obtain ⟨registry, entries, result⟩ := o.bus.registry.callNamed context d.hook d.payload
  have hrecord (message : String) : Transcript.hooks [record .debug context message] = [] := rfl
  cases result with
  | ok => rfl
  | error e =>
    dsimp only
    split <;> rw [Transcript.hooks_append, hrecord, List.append_nil]

/-- An outbox and the plugin calls that were made, after one more delivery. -/
def carry (x : Outbox × Transcript) (d : Delivery) : Outbox × Transcript :=
  ((x.1.deliver .empty d).1, x.2 ++ (x.1.deliver .empty d).2.1.hooks)

/-- A delivery comes to the same with other tags. -/
theorem carry_context (context : LogContext) (x : Outbox × Transcript) (d : Delivery) :
    carry x d = ((x.1.deliver context d).1, x.2 ++ (x.1.deliver context d).2.1.hooks) := by
  have hcall := x.1.bus.registry.callNamed_context .empty context d.hook d.payload
  simp only [carry, deliver_fst, deliver_hooks, outcome_context .empty context, hcall.state,
    hcall.hooks]

@[simp] theorem length_carry (x : Outbox × Transcript) (d : Delivery) :
    (carry x d).1.journal.rows.length = x.1.journal.rows.length := by
  simp only [carry, deliver_fst, Journal.length_record]

@[simp] theorem length_foldl_carry (x : Outbox × Transcript) (ds : List Delivery) :
    (ds.foldl carry x).1.journal.rows.length = x.1.journal.rows.length := by
  induction ds generalizing x with
  | nil => rfl
  | cons d rest ih => rw [List.foldl_cons, ih, length_carry]

/-- Writing an event changes the journal of an outbox. -/
def writing (hook payload : String) (account : Option String) (o : Outbox) : Outbox :=
  { o with journal := o.journal.append hook payload account }

/-- An event that is written before or after another is delivered is the same. -/
theorem carry_writing (hook payload : String) (account : Option String) {x : Outbox × Transcript}
    (hd : d.id ≤ x.1.journal.rows.length) :
    carry (x.1.writing hook payload account, x.2) d =
      ((carry x d).1.writing hook payload account, (carry x d).2) := by
  simp only [carry, deliver_fst, deliver_hooks, writing, ← Journal.record_append _ _ hd]
  rfl

/-- The same of several deliveries. -/
theorem foldl_carry_writing (hook payload : String) (account : Option String)
    {x : Outbox × Transcript} {ds : List Delivery}
    (hds : ∀ d ∈ ds, d.id ≤ x.1.journal.rows.length) :
    ds.foldl carry (x.1.writing hook payload account, x.2) =
      ((ds.foldl carry x).1.writing hook payload account, (ds.foldl carry x).2) := by
  induction ds generalizing x with
  | nil => rfl
  | cons d rest ih =>
    rw [List.foldl_cons, carry_writing hook payload account (hds d (.head _)), ih, List.foldl_cons]
    intro e he
    rw [length_carry]
    exact hds e (.tail _ he)

/-- A delivery does not look at what waits. -/
theorem carry_withWaiting (waiting : Option (List Delivery)) (x : Outbox × Transcript)
    (d : Delivery) :
    carry (x.1.withWaiting waiting, x.2) d =
      ((carry x d).1.withWaiting waiting, (carry x d).2) := by
  simp only [carry, deliver_withWaiting]

/-- Several deliveries do not either. -/
theorem foldl_carry_withWaiting (waiting : Option (List Delivery)) (x : Outbox × Transcript)
    (ds : List Delivery) :
    ds.foldl carry (x.1.withWaiting waiting, x.2) =
      ((ds.foldl carry x).1.withWaiting waiting, (ds.foldl carry x).2) := by
  induction ds generalizing x with
  | nil => rfl
  | cons d rest ih => rw [List.foldl_cons, carry_withWaiting, ih, List.foldl_cons]

/-- Flushing one delivery is making it, but for the journal if the worker does not reach that. -/
theorem flushAll_fst (context : LogContext) (d : Delivery) (o : Outbox) :
    (flushAll context [d] o).1 =
      if o.bus.journalInReach then (o.deliver .empty d).1
      else { (o.deliver .empty d).1 with journal := o.journal } := by
  have hsame : (o.deliver .empty d).2.2.isOk = false →
      (o.deliver .empty d).1.journal = o.journal := by
    rw [deliver_isOk, deliver_fst, Journal.record]
    intro h
    rw [h]
    rfl
  simp only [flushAll]
  generalize o.deliver .empty d = delivery at hsame ⊢
  obtain ⟨o', entries, result⟩ := delivery
  cases result with
  | ok => cases o.bus.journalInReach <;> rfl
  | error =>
    have hj : o'.journal = o.journal := hsame rfl
    cases o.bus.journalInReach <;> simp [← hj]

/-- The plugin calls of flushing one delivery are those of the delivery. -/
theorem flushAll_hooks (context : LogContext) (d : Delivery) (o : Outbox) :
    (flushAll context [d] o).2.hooks = (o.deliver .empty d).2.1.hooks := by
  have hrecord (message : String) : Transcript.hooks [record .warning context message] = [] := rfl
  simp only [flushAll]
  generalize o.deliver .empty d = delivery
  obtain ⟨o', entries, result⟩ := delivery
  cases result with
  | ok =>
    cases o.bus.journalInReach with
    | true => exact congrArg Transcript.hooks (List.append_nil entries)
    | false =>
      show Transcript.hooks ((entries ++ [_]) ++ []) = _
      rw [List.append_nil, Transcript.hooks_append, hrecord, List.append_nil]
  | error =>
    show Transcript.hooks ((entries ++ [_]) ++ []) = _
    rw [List.append_nil, Transcript.hooks_append, hrecord, List.append_nil]

/-- Flushing is making one delivery after another, if the worker reaches the journal. -/
theorem flushAll_eq_foldl (hr : o.bus.journalInReach) (context : LogContext) (ds : List Delivery)
    (made : Transcript) :
    ((flushAll context ds o).1, made ++ (flushAll context ds o).2.hooks) =
      ds.foldl carry (o, made) := by
  induction ds generalizing o made with
  | nil => exact Prod.ext rfl (List.append_nil made)
  | cons d rest ih =>
    have hone : (flushAll context [d] o).1 = (o.deliver .empty d).1 := by
      rw [flushAll_fst, if_pos hr]
    have hreach : (flushAll context [d] o).1.bus.journalInReach = true := by
      rw [hone, deliver_fst]
      exact hr
    have hall : (flushAll context (d :: rest) o).2 =
        (flushAll context [d] o).2 ++ (flushAll context rest (flushAll context [d] o).1).2 := by
      simp only [flushAll, List.append_nil]
    rw [flushAll_cons, hall, Transcript.hooks_append, ← List.append_assoc, ih hreach, hone,
      flushAll_hooks, List.foldl_cons]
    rfl

/-- What rows owe has their ids. -/
theorem map_id_owed (rs : List Row) : (rs.map owed).map (·.id) = rs.map (·.id) := by
  rw [List.map_map]
  rfl

/-- Where nothing waits, flushing does nothing. -/
theorem flush_nothing (context : LogContext) {o : Outbox} (hw : o.bus.waiting.getD [] = []) :
    o.flush context = (o, []) := by
  obtain ⟨journal, registry, maxRetries, waiting, reach⟩ := o
  cases waiting with
  | none => rfl
  | some ds =>
    obtain rfl : ds = [] := hw
    rfl

/-- Without a worker there is nothing to flush. -/
theorem flush_direct (context : LogContext) {o : Outbox} (hw : o.bus.waiting = none) :
    o.flush context = (o, []) :=
  flush_nothing context (by rw [hw]; rfl)

/-- Replaying rows does not look at what waits. -/
theorem replayAll_withWaiting (context : LogContext) (waiting : Option (List Delivery))
    (rs : List Row) (o : Outbox) :
    replayAll context rs (o.withWaiting waiting) =
      ((replayAll context rs o).1.withWaiting waiting, (replayAll context rs o).2) := by
  induction rs generalizing o with
  | nil => rfl
  | cons r rest ih =>
    simp only [replayAll, deliver_withWaiting]
    generalize o.deliver context (owed r) = delivery
    obtain ⟨o', entries, result⟩ := delivery
    cases result with
    | error => rfl
    | ok => simp only [ih]

/-- A replay changes of a bus only its plugins. -/
theorem replayAll_bus (context : LogContext) (rs : List Row) (o : Outbox) :
    ∃ registry, (replayAll context rs o).1.bus = { o.bus with registry } := by
  induction rs generalizing o with
  | nil => exact ⟨o.bus.registry, rfl⟩
  | cons r rest ih =>
    have hfst := deliver_fst context (owed r) o
    rw [replayAll]
    generalize o.deliver context (owed r) = delivery at hfst ⊢
    obtain ⟨o', entries, result⟩ := delivery
    obtain rfl := hfst
    cases result with
    | ok =>
      obtain ⟨registry, hbus⟩ := ih ⟨_, _⟩
      exact ⟨registry, hbus⟩
    | error => exact ⟨_, rfl⟩

end Outbox

end Voicemail
