import Voicemail.Proofs.Json.Storable
import Voicemail.Proofs.Outbox.Dispatched

/-!
# What a crash leaves behind

A process may end after any step of its bus, and what it leaves behind is the journal
(`Sitting.journal`). However many processes have worked at a journal and crashed, it keeps every
event that was dispatched, and no plugin was called for another (`Kept.sitting`). Whoever opens it
then delivers in one drain exactly what was not yet delivered, provided that no hook call fails
(`Outbox.drain_accepted`). Both together are `recovers`.

The steps of a process are those of the jobs that it is asked to do, up to where it crashes. All of
them lead where the jobs lead (`Job.runs_allActs`), and the plugin calls among them are those that
the jobs make (`Job.hooks_allActs`).
-/

namespace Voicemail

open Shared Outbox

/-! ## A drain in which no hook call fails -/

/-- Calls the hooks of deliveries one after another, until a call fails. -/
def Registry.callAll (context : LogContext) :
    List Delivery → Registry → Registry × Transcript × Except Failure Unit
  | [], r => (r, [], .ok ())
  | d :: rest, r =>
    match r.callNamed context d.hook d.payload with
    | (r, entries, .error e) => (r, entries, .error e)
    | (r, entries, .ok ()) =>
      let (r, more, result) := callAll context rest r
      (r, entries ++ more, result)

/-- No hook call fails in which plugins are told of some events. -/
def Registry.Accepts (context : LogContext) (ds : List Delivery) (r : Registry) : Prop :=
  (r.callAll context ds).2.2.isOk = true

instance (context : LogContext) (ds : List Delivery) (r : Registry) :
    Decidable (r.Accepts context ds) :=
  inferInstanceAs (Decidable (_ = true))

/-- The deliveries that a journal owes, oldest first. -/
def Journal.due (j : Journal) : List Delivery := j.replayable.map owed

/-- The journal after the rows with some ids are completed. -/
def Journal.completeAll (ids : List Nat) (j : Journal) : Journal :=
  ids.foldl (fun j id => j.update id Row.complete) j

/-- Each of the rows is completed, and no other. -/
theorem Journal.rows_completeAll (ids : List Nat) (j : Journal) :
    (j.completeAll ids).rows = j.rows.map fun r => if r.id ∈ ids then r.complete else r := by
  induction ids generalizing j with
  | nil => simp [completeAll]
  | cons id rest ih =>
    rw [completeAll, List.foldl_cons]
    refine (ih (j.update id Row.complete)).trans ?_
    rw [update, List.map_map]
    refine List.map_congr_left fun r _ => ?_
    simp only [Function.comp_apply, List.mem_cons]
    by_cases hid : r.id = id
    · simp only [hid, if_true, true_or]
      split <;> rfl
    · simp only [hid, if_false, false_or]

namespace Outbox

variable {context : LogContext}

/-- A replay in which no hook call fails completes every row, in the order of the list. -/
theorem replayAll_accepted (rs : List Row) (o : Outbox)
    (h : o.bus.registry.Accepts context (rs.map owed)) :
    replayAll context rs o =
      (⟨o.journal.completeAll (rs.map (·.id)),
        { o.bus with registry := (o.bus.registry.callAll context (rs.map owed)).1 }⟩,
      (o.bus.registry.callAll context (rs.map owed)).2.1,
      .ok ((rs.map owed).map fun d => ⟨d.id, d.hook, .completed⟩)) := by
  induction rs generalizing o with
  | nil => rfl
  | cons r rest ih =>
    simp only [Registry.Accepts, List.map_cons, Registry.callAll] at h ⊢
    rw [replayAll, deliver]
    generalize o.bus.registry.callNamed context (owed r).hook (owed r).payload = called at h ⊢
    obtain ⟨registry, entries, result⟩ := called
    cases result with
    | error => cases h
    | ok =>
      have hrest := ih ((o.withRegistry registry).complete r.id) h
      dsimp only
      rw [show (owed r).id = r.id from rfl, hrest]
      rfl

end Outbox

/-- What a drain of a journal comes to that delivers what the journal owes: each event once, in the
order of their numbers. -/
structure Redelivers (context : LogContext) (j : Journal) (bus : Bus) : Prop where
  /-- What is owed are the events of the rows that are pending or failed. -/
  rows : j.due.map (·.id) = j.replayable.map (·.id)
  /-- Their numbers rise, so none is owed twice. -/
  rising : (j.due.map (·.id)).Pairwise (· < ·)
  /-- Their hooks are called one after another, and no others. -/
  calls : ((⟨j, bus⟩ : Outbox).drain context).2.1 = (bus.registry.callAll context j.due).2.1
  /-- Each of them is reported as completed. -/
  result : ((⟨j, bus⟩ : Outbox).drain context).2.2 =
    .ok (j.due.map fun d => ⟨d.id, d.hook, .completed⟩)
  /-- Afterwards every row is completed or was given up before, and those that had been completed or
  given up are as they were. -/
  settled : ((⟨j, bus⟩ : Outbox).drain context).1.journal.rows =
    j.rows.map fun r => if r.status.isReplayable then r.complete else r
  done : ∀ r ∈ ((⟨j, bus⟩ : Outbox).drain context).1.journal.rows,
    r.status = .completed ∨ r.status = .deadLetter ∧ r ∈ j.rows

/-- Whether a row is among those that are delivered again shows in its id. -/
theorem Journal.id_mem_replayable {j : Journal} (hids : (j.rows.map (·.id)).Nodup) {r : Row}
    (hr : r ∈ j.rows) : r.id ∈ j.replayable.map (·.id) ↔ r.status.isReplayable = true := by
  refine ⟨fun hid => ?_, fun ho => List.mem_map_of_mem (List.mem_filter.2 ⟨hr, ho⟩)⟩
  obtain ⟨s, hs, he⟩ := List.mem_map.1 hid
  obtain ⟨hs, ho⟩ := List.mem_filter.1 hs
  rwa [List.inj_on_of_nodup_map hids hr hs he.symm]

namespace Outbox

/-- Where no hook call fails, a drain delivers what the journal owes. -/
theorem drain_accepted {j : Journal} {bus : Bus} (hids : (j.rows.map (·.id)).Pairwise (· < ·))
    (hw : bus.waiting.getD [] = []) (h : bus.registry.Accepts context j.due) :
    Redelivers context j bus := by
  have hflush := flush_nothing context (o := ⟨j, bus⟩) hw
  have hreplay := replayAll_accepted j.replayable ⟨j, bus⟩ h
  have hdue : j.due.map (·.id) = j.replayable.map (·.id) := map_id_owed _
  have hrows : ((⟨j, bus⟩ : Outbox).drain context).1.journal.rows =
      j.rows.map fun r => if r.status.isReplayable then r.complete else r := by
    simp only [drain, hflush, hreplay]
    rw [Journal.rows_completeAll]
    refine List.map_congr_left fun r hr => ?_
    simp only [Journal.id_mem_replayable (hids.imp ne_of_lt) hr]
  refine ⟨hdue, ?_, ?_, ?_, hrows, fun r hr => ?_⟩
  · rw [hdue]
    exact hids.sublist (List.filter_sublist.map _)
  · simp only [drain, hflush, hreplay]
    rfl
  · simp only [drain, hflush, hreplay]
    rfl
  · rw [hrows] at hr
    obtain ⟨s, hs, rfl⟩ := List.mem_map.1 hr
    cases hstatus : s.status with
    | pending | failed => exact .inl (by simp [RowStatus.isReplayable, Row.complete])
    | completed => exact .inl (by simp [hstatus, RowStatus.isReplayable])
    | deadLetter => exact .inr (by simpa [hstatus, RowStatus.isReplayable] using hs)

end Outbox

/-! ## What a process does -/

namespace Act

/-- What a step does to a plugin, if it is a call. -/
def entry? : Act → Option Entry
  | .call _ entry => some entry
  | .append _ _ _ | .read | .settle _ _ | .abandon _ => none

/-- The plugin calls of some steps. -/
def hooks (acts : List Act) : Transcript := Transcript.hooks (acts.filterMap entry?)

/-- The plugin calls of some steps and then others. -/
theorem hooks_append (acts more : List Act) : hooks (acts ++ more) = hooks acts ++ hooks more := by
  rw [hooks, List.filterMap_append, Transcript.hooks_append]
  rfl

end Act

/-- The payload of an event: a value that some text writes. -/
structure Payload where
  value : Json
  written : ∃ s, Json.read? s = some value

/-- A payload is stored by a text from which it is read back. -/
theorem Payload.isStorable (p : Payload) : p.value.IsStorable := Json.isStorable_iff.2 p.written

/-- What a process asks of its outbox. -/
inductive Job where
  | dispatch (hook : String) (payload : Payload) (account : Option String)
  | drain

namespace Job

/-- An outbox after a job, and what was done. -/
def run (context : LogContext) : Job → Outbox → Outbox × Transcript
  | .dispatch hook payload account, o =>
    ((o.dispatch context hook payload.value account).1,
      (o.dispatch context hook payload.value account).2.1)
  | .drain, o => ((o.drain context).1, (o.drain context).2.1)

/-- The steps of a job without a worker. -/
def acts (context : LogContext) : Job → Outbox → List Act
  | .dispatch hook payload account, o => o.dispatchActs context hook payload.value account
  | .drain, o => o.drainActs context

/-- An outbox after jobs, and what was done. -/
def runAll (context : LogContext) : List Job → Outbox → Outbox × Transcript
  | [], o => (o, [])
  | job :: rest, o =>
    let (o, entries) := job.run context o
    let (o, more) := runAll context rest o
    (o, entries ++ more)

/-- The steps of jobs, one job after another. -/
def allActs (context : LogContext) : List Job → Outbox → List Act
  | [], _ => []
  | job :: rest, o => job.acts context o ++ allActs context rest (job.run context o).1

variable {o : Outbox}

/-- A job without a worker changes of a bus only its plugins. -/
theorem run_bus (context : LogContext) (hw : o.bus.waiting = none) (job : Job) :
    ∃ registry, (job.run context o).1.bus = { o.bus with registry } := by
  cases job with
  | dispatch hook payload account =>
    simp only [run, Outbox.dispatch, hw, deliver_fst]
    exact ⟨_, rfl⟩
  | drain =>
    have hflush := flush_direct context hw
    obtain ⟨registry, hbus⟩ := replayAll_bus context o.journal.replayable o
    refine ⟨registry, ?_⟩
    simp only [run, Outbox.drain, hflush]
    exact hbus

section
variable {ι : Type} [DecidableEq ι] {M : ι → Int} {i : ι} {held : ι → List Delivery}

/-- The steps of a job lead where the job leads. -/
theorem runs_acts (hi : M i = o.bus.maxRetries) (free : held i = []) (hw : o.bus.waiting = none)
    (context : LogContext) (job : Job) :
    Runs M Any ⟨o.journal, held⟩ ((job.acts context o).map (i, ·))
      ⟨(job.run context o).1.journal, held⟩ := by
  cases job with
  | dispatch hook payload account => exact runs_dispatch hi free hw hook payload.value account
  | drain => exact runs_drain hi free hw

/-- The steps of jobs lead where the jobs lead. -/
theorem runs_allActs (hi : M i = o.bus.maxRetries) (free : held i = [])
    (hw : o.bus.waiting = none) (context : LogContext) (jobs : List Job) :
    Runs M Any ⟨o.journal, held⟩ ((allActs context jobs o).map (i, ·))
      ⟨(runAll context jobs o).1.journal, held⟩ := by
  induction jobs generalizing o with
  | nil => exact .nil _
  | cons job rest ih =>
    obtain ⟨registry, hbus⟩ := run_bus context hw job
    rw [allActs, List.map_append]
    refine (runs_acts hi free hw context job).trans (ih ?_ ?_)
    · rw [hbus, hi]
    · rw [hbus, hw]

end

/-! ### What is called and what is written -/

/-- The plugin calls among the steps of a delivery are those that it makes. -/
theorem hooks_deliverActs (context : LogContext) (d : Delivery) (o : Outbox) :
    Act.hooks (o.deliverActs context d) = (o.deliver context d).2.1.hooks := by
  have hcalls (entries : Transcript) :
      (entries.map (Act.call d)).filterMap Act.entry? = entries := by
    rw [List.filterMap_map]
    exact List.filterMap_some
  have hlast : Act.hooks [if Journal.records o.bus.maxRetries (o.outcome context d) then
      .settle d (o.outcome context d) else .abandon []] = [] := by
    split <;> rfl
  rw [deliver_hooks, deliverActs, Act.hooks_append, hlast, List.append_nil, Act.hooks, hcalls]

/-- So are those among the steps of a replay. -/
theorem hooks_replayActs (context : LogContext) (rs : List Row) (o : Outbox) :
    Act.hooks (replayActs context rs o) = (replayAll context rs o).2.1.hooks := by
  induction rs generalizing o with
  | nil => rfl
  | cons r rest ih =>
    have hone := hooks_deliverActs context (owed r) o
    rw [replayActs, replayAll, Act.hooks_append, hone]
    obtain ⟨o', entries, result⟩ := o.deliver context (owed r)
    cases result with
    | ok =>
      dsimp only
      rw [ih, Transcript.hooks_append]
    | error => exact List.append_nil _

/-- The plugin calls among the steps of a job are those that the job makes. -/
theorem hooks_acts (hw : o.bus.waiting = none) (context : LogContext) (job : Job) :
    Act.hooks (job.acts context o) = (job.run context o).2.hooks := by
  cases job with
  | dispatch hook payload account =>
    simp only [run, Outbox.dispatch, hw]
    exact hooks_deliverActs ..
  | drain =>
    have hflush := flush_direct context hw
    simp only [run, Outbox.drain, hflush, List.nil_append]
    exact hooks_replayActs ..

/-- The plugin calls among the steps of jobs are those that the jobs make. -/
theorem hooks_allActs (hw : o.bus.waiting = none) (context : LogContext) (jobs : List Job) :
    Act.hooks (allActs context jobs o) = (runAll context jobs o).2.hooks := by
  induction jobs generalizing o with
  | nil => rfl
  | cons job rest ih =>
    obtain ⟨registry, hbus⟩ := run_bus context hw job
    have hrest := ih (o := (job.run context o).1) (by rw [hbus, hw])
    rw [allActs, runAll, Act.hooks_append, Transcript.hooks_append, hooks_acts hw, hrest]

/-- A delivery appends no event, so all that it writes can be stored. -/
theorem isStorable_deliverActs (context : LogContext) (d : Delivery) (o : Outbox) :
    ∀ a ∈ o.deliverActs context d, a.IsStorable := by
  intro a ha
  obtain ha | ha := List.mem_append.1 ha
  · obtain ⟨entry, -, rfl⟩ := List.mem_map.1 ha
    trivial
  · rw [List.mem_singleton.1 ha]
    split <;> trivial

/-- A replay appends none either. -/
theorem isStorable_replayActs (context : LogContext) (rs : List Row) (o : Outbox) :
    ∀ a ∈ replayActs context rs o, a.IsStorable := by
  induction rs generalizing o with
  | nil => exact fun _ ha => nomatch ha
  | cons r rest ih =>
    intro a ha
    rw [replayActs] at ha
    obtain ha | ha := List.mem_append.1 ha
    · exact isStorable_deliverActs context (owed r) o a ha
    · split at ha
      · exact ih _ a ha
      · cases ha

/-- A job appends an event for a payload, which can be stored, or none. -/
theorem isStorable_acts (context : LogContext) (job : Job) (o : Outbox) :
    ∀ a ∈ job.acts context o, a.IsStorable := by
  cases job with
  | dispatch hook payload account =>
    exact List.forall_mem_cons.2 ⟨payload.isStorable, fun a => isStorable_deliverActs _ _ _ a⟩
  | drain => exact List.forall_mem_cons.2 ⟨trivial, fun a => isStorable_replayActs _ _ _ a⟩

/-- Jobs write only what can be stored. -/
theorem isStorable_allActs (context : LogContext) (jobs : List Job) (o : Outbox) :
    ∀ a ∈ allActs context jobs o, a.IsStorable := by
  induction jobs generalizing o with
  | nil => exact fun _ ha => nomatch ha
  | cons job rest ih => exact List.forall_mem_append.2 ⟨isStorable_acts context job o, ih _⟩

end Job

/-! ## Processes that crash -/

/-- The journal after one more step. -/
def Act.write (maxRetries : Int) (j : Journal) : Act → Journal
  | .append hook payload account => j.append hook payload.text account
  | .settle d outcome => j.update d.id (Row.settle maxRetries outcome)
  | .read | .call _ _ | .abandon _ => j

/-- A step leaves the journal that it writes. -/
theorem Shared.Step.journal {ι : Type} [DecidableEq ι] {M : ι → Int} {t t' : Shared ι} {i : ι}
    {a : Act} (hstep : Step M t i a t') : t'.journal = a.write (M i) t.journal := by
  cases hstep <;> rfl

/-- A run of one bus leaves the journal that its steps write. -/
theorem Shared.Runs.journal {M : Int} {t t' : Shared Unit} {acts : List Act}
    (hruns : Runs (fun _ => M) Any t (acts.map ((), ·)) t') :
    t'.journal = acts.foldl (Act.write M) t.journal := by
  induction acts generalizing t with
  | nil => cases hruns; rfl
  | cons a rest ih =>
    cases hruns with
    | cons step _ hrest => rw [ih hrest, step.journal, List.foldl_cons]

/-- A process without a worker at a journal: its plugins, what it is asked to do, and after how many
steps it crashes. -/
structure Sitting where
  registry : Registry
  maxRetries : Int
  context : LogContext
  jobs : List Job
  steps : Nat

namespace Sitting

/-- The outbox that a process starts with. -/
def outbox (s : Sitting) (j : Journal) : Outbox :=
  ⟨j, { registry := s.registry, maxRetries := s.maxRetries, waiting := none }⟩

/-- The steps that a process takes before it crashes. -/
def acts (s : Sitting) (j : Journal) : List Act :=
  (Job.allActs s.context s.jobs (s.outbox j)).take s.steps

/-- The journal that a process leaves behind. -/
def journal (s : Sitting) (j : Journal) : Journal := (s.acts j).foldl (Act.write s.maxRetries) j

/-- All that a process would do is a run of its bus. -/
theorem runs_all (s : Sitting) (j : Journal) :
    Runs (fun _ : Unit => s.maxRetries) Any ⟨j, fun _ => []⟩
      ((Job.allActs s.context s.jobs (s.outbox j)).map ((), ·))
      ⟨(Job.runAll s.context s.jobs (s.outbox j)).1.journal, fun _ => []⟩ :=
  Job.runs_allActs (M := fun _ : Unit => s.maxRetries) (i := ()) (o := s.outbox j) rfl rfl rfl
    s.context s.jobs

/-- What a process does before it crashes is a run of its bus. -/
theorem runs (s : Sitting) (j : Journal) :
    ∃ t, Runs (fun _ : Unit => s.maxRetries) Any ⟨j, fun _ => []⟩ ((s.acts j).map ((), ·)) t ∧
      t.journal = s.journal j := by
  have hruns := s.runs_all j
  rw [← List.take_append_drop s.steps (Job.allActs ..), List.map_append] at hruns
  obtain ⟨t, ht, -⟩ := hruns.split
  exact ⟨t, ht, ht.journal⟩

/-- A process that does not crash leaves the journal behind that its jobs leave. -/
theorem journal_of_done {s : Sitting} {j : Journal}
    (h : (Job.allActs s.context s.jobs (s.outbox j)).length ≤ s.steps) :
    s.journal j = (Job.runAll s.context s.jobs (s.outbox j)).1.journal := by
  rw [journal, acts, List.take_of_length_le h]
  exact (s.runs_all j).journal.symm

end Sitting

/-- A journal keeps the events that were dispatched in some steps, and plugins were called in them
for no others. -/
structure Kept (acts : List Act) (j : Journal) : Prop where
  keeps : j.Keeps (Act.dispatched acts)
  called : ∀ d entry, .call d entry ∈ acts → d ∈ Act.dispatched acts

/-- A process that crashes leaves a journal behind which keeps what was dispatched in it too. -/
theorem Kept.sitting {acts : List Act} {j : Journal} (h : Kept acts j) (s : Sitting) :
    Kept (acts ++ s.acts j) (s.journal j) := by
  obtain ⟨t, hruns, hjournal⟩ := s.runs j
  -- The next process knows nothing of what the last one had still to deliver but the journal.
  have hstart : Shared.Faithful ⟨j, fun _ : Unit => []⟩ (Act.dispatched acts) :=
    ⟨h.keeps, fun _ _ hd => nomatch hd⟩
  have hstorable : ∀ x ∈ (s.acts j).map ((), ·), x.2.IsStorable := by
    intro x hx
    obtain ⟨a, ha, rfl⟩ := List.mem_map.1 hx
    exact Job.isStorable_allActs _ _ _ a (List.mem_of_mem_take ha)
  have hmap : ((s.acts j).map (((), ·) : Act → Unit × Act)).map (·.2) = s.acts j := by
    rw [List.map_map]
    exact List.map_id _
  have hfaithful := hruns.faithful hstart hstorable
  rw [hmap, ← Act.dispatched_append] at hfaithful
  refine ⟨hjournal ▸ hfaithful.keeps, fun d entry hcall => ?_⟩
  rw [Act.dispatched_append]
  obtain hcall | hcall := List.mem_append.1 hcall
  · exact Act.mem_foldl_addEvent (h.called d entry hcall) _
  · have hmem := hruns.mem_of_call hstart hstorable (List.mem_map_of_mem hcall)
    rwa [hmap] at hmem

/-- The ids of a journal that keeps what was dispatched rise. -/
theorem Kept.rising {acts : List Act} {j : Journal} (h : Kept acts j) :
    (j.rows.map (·.id)).Pairwise (· < ·) := by
  have hids := Act.pairwise_dispatched acts
  rwa [← h.keeps.map_owed, map_id_owed] at hids

/-- The steps that were taken at a journal and what they left behind, after one more process. -/
def Sitting.follow (x : List Act × Journal) (s : Sitting) : List Act × Journal :=
  (x.1 ++ s.acts x.2, s.journal x.2)

/-- The steps that processes take at a journal, each until it crashes and the next one opens the
journal, and what they leave behind. -/
def history (ss : List Sitting) : List Act × Journal := ss.foldl Sitting.follow ([], .empty)

/-- However processes have worked at a journal and crashed, it keeps the events that they
dispatched. -/
theorem kept_history (ss : List Sitting) : Kept (history ss).1 (history ss).2 := by
  have hfold (x : List Act × Journal) (hx : Kept x.1 x.2) :
      Kept (ss.foldl Sitting.follow x).1 (ss.foldl Sitting.follow x).2 := by
    induction ss generalizing x with
    | nil => exact hx
    | cons s rest ih => exact ih _ (hx.sitting s)
  exact hfold _ ⟨Journal.keeps_empty, fun _ _ hcall => nomatch hcall⟩

/-- However processes crash, every event for which a plugin was called has a row that says what was
dispatched. And whoever opens the journal then, with plugins that do not fail, delivers in one drain
what is owed, which are events as they were dispatched. -/
theorem recovers (ss : List Sitting) :
    (∀ d entry, .call d entry ∈ (history ss).1 →
        ∃ r ∈ (history ss).2.rows, r.event? = some d) ∧
      (history ss).2.due.Sublist (Act.dispatched (history ss).1) ∧
      ∀ (context : LogContext) (bus : Bus), bus.waiting.getD [] = [] →
        bus.registry.Accepts context (history ss).2.due →
        Redelivers context (history ss).2 bus := by
  have hkept := kept_history ss
  refine ⟨fun d entry hcall => ?_, hkept.keeps.replayable_sublist, fun context bus hw h => ?_⟩
  · exact hkept.keeps.exists_row (hkept.called d entry hcall)
  · exact drain_accepted hkept.rising hw h

namespace Pager

/-- A plugin whose first calls fail. -/
def registry (failures : Nat) : Registry where
  members := [("pager", .plugin {
    label := "pager", className := "Pager", hooks := [.vvmEvent], calls := 0
    respond := fun n _ _ => if n < failures then some ⟨.runtime, "busy"⟩ else none })]

/-- The payload of an event. -/
def payload : Payload where
  value := .obj [("account_id", .str "100"), ("protocol", .str "VVM3"), ("event", .str "ready"),
    ("detail", .obj [])]
  written := Json.isStorable_iff.1 ⟨by decide, trivial, trivial, trivial, ⟨.nil, trivial⟩, trivial⟩

/-- Three events of which the first fails, the second is delivered, and the third is only written
when the process crashes. The next process crashes in a drain, after the first event was delivered
again and before that was recorded. -/
def sittings : List Sitting :=
  [{ registry := registry 1, maxRetries := 3, context := .empty, steps := 7
     jobs := List.replicate 3 (.dispatch "vvm_event" payload none) },
   { registry := registry 0, maxRetries := 3, context := .empty, steps := 2, jobs := [.drain] }]

/-- The bus of the process after those. -/
def bus : Bus where
  registry := registry 0
  maxRetries := 3
  waiting := none

end Pager

/-- After the pager's two crashes the first and the third event are owed, and are delivered. -/
theorem recovers_pager :
    (history Pager.sittings).2.due.map (·.id) = [1, 3] ∧
      Redelivers .empty (history Pager.sittings).2 Pager.bus :=
  ⟨by decide +kernel, (recovers Pager.sittings).2.2 .empty Pager.bus rfl (by decide +kernel)⟩

end Voicemail
