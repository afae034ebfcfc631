import Mathlib.Logic.Function.Basic
import Voicemail.Proofs.Outbox.Effects

/-!
# The steps of buses at one journal

A bus works in steps that the journal sees one by one (`Act`): an event is appended, the rows that
are owed are read, a plugin is called, a row is settled. Between two of them another bus at the same
journal may take a step, and a process may end after any of them. `Shared.Step` says what a step
does. Of a bus it knows only which deliveries are still to be made, so that plugins may answer in
every possible way.

The steps of an operation of an outbox without a worker are `Outbox.dispatchActs` and
`Outbox.drainActs`. Taken one after another they lead where the operation leads
(`Outbox.runs_dispatch`, `Outbox.runs_drain`).
-/

namespace Voicemail

/-- One step of a bus. -/
inductive Act where
  /-- An event is written to the journal. -/
  | append (hook : String) (payload : Json) (account : Option String)
  /-- The rows that are owed are read. -/
  | read
  /-- A plugin is called for a delivery. -/
  | call (d : Delivery) (entry : Entry)
  /-- The row of a delivery is settled by what came of its hook call. -/
  | settle (d : Delivery) (outcome : Option String)
  /-- Deliveries are given up, all but the last ones. -/
  | abandon (later : List Delivery)

/-- A journal and the buses at it, each with the deliveries that it has still to make. -/
structure Shared (ι : Type) where
  journal : Journal
  held : ι → List Delivery

namespace Shared

variable {ι : Type}

/-- A journal without rows, at which no bus has anything to do. -/
def start : Shared ι := ⟨.empty, fun _ => []⟩

variable [DecidableEq ι]

/-- What the steps of a bus do. Each bus has its own greatest number of retries, and can record a
failure only if the journal can compare with that. -/
inductive Step (M : ι → Int) (t : Shared ι) (i : ι) : Act → Shared ι → Prop
  | append (hook : String) (payload : Json) (account : Option String) :
      Step M t i (.append hook payload account)
        ⟨t.journal.append hook payload.text account,
          Function.update t.held i (t.held i ++ [⟨t.journal.nextId, hook, payload⟩])⟩
  | read (free : t.held i = []) :
      Step M t i .read
        ⟨t.journal, Function.update t.held i (t.journal.replayable.map Outbox.owed)⟩
  | call {d : Delivery} {later : List Delivery} (first : t.held i = d :: later) (entry : Entry) :
      Step M t i (.call d entry) t
  | settle {d : Delivery} {later : List Delivery} (first : t.held i = d :: later)
      {outcome : Option String} (recorded : outcome = none ∨ Journal.fits (M i)) :
      Step M t i (.settle d outcome)
        ⟨t.journal.update d.id (Row.settle (M i) outcome), Function.update t.held i later⟩
  | abandon {later : List Delivery} (rest : later <:+ t.held i) :
      Step M t i (.abandon later) ⟨t.journal, Function.update t.held i later⟩

/-- Steps of buses one after another, after each of which the state is one of `P`. -/
inductive Runs (M : ι → Int) (P : Shared ι → Prop) :
    Shared ι → List (ι × Act) → Shared ι → Prop
  | nil (t : Shared ι) : Runs M P t [] t
  | cons {t t' t'' : Shared ι} {i : ι} {a : Act} {acts : List (ι × Act)}
      (step : Step M t i a t') (within : P t') (rest : Runs M P t' acts t'') :
      Runs M P t ((i, a) :: acts) t''

namespace Runs

variable {M : ι → Int} {P : Shared ι → Prop} {t t' t'' : Shared ι} {acts more : List (ι × Act)}

/-- A step is a run. -/
theorem single {i : ι} {a : Act} (step : Step M t i a t') (within : P t') :
    Runs M P t [(i, a)] t' :=
  .cons step within (.nil t')

/-- A run goes on where another one ended. -/
theorem trans (h : Runs M P t acts t') (h' : Runs M P t' more t'') :
    Runs M P t (acts ++ more) t'' := by
  induction h with
  | nil => exact h'
  | cons step within _ ih => exact .cons step within (ih h')

/-- The first steps of a run are a run, which the others go on from. -/
theorem split (h : Runs M P t (acts ++ more) t'') :
    ∃ t', Runs M P t acts t' ∧ Runs M P t' more t'' := by
  induction acts generalizing t with
  | nil => exact ⟨t, .nil t, h⟩
  | cons x acts ih =>
    cases h with
    | cons step within rest =>
      obtain ⟨t₁, hfirst, hrest⟩ := ih rest
      exact ⟨t₁, .cons step within hfirst, hrest⟩

end Runs

/-- The runs of buses that stand in nobody's way. -/
abbrev Any : Shared ι → Prop := fun _ => True

end Shared

namespace Outbox

open Shared

/-! ## The steps of operations -/

/-- The steps of a delivery: its plugin calls, then its row is settled. Where that cannot be done
the bus gives up what it has still to do. -/
def deliverActs (context : LogContext) (d : Delivery) (o : Outbox) : List Act :=
  (o.bus.registry.callNamed context d.hook d.payload).2.1.map (.call d) ++
    [if Journal.records o.bus.maxRetries (o.outcome context d) then
      .settle d (o.outcome context d) else .abandon []]

/-- The steps of the replay of rows. -/
def replayActs (context : LogContext) : List Row → Outbox → List Act
  | [], _ => []
  | r :: rest, o =>
    o.deliverActs context (owed r) ++
      match o.deliver context (owed r) with
      | (o, _, .ok _) => replayActs context rest o
      | (_, _, .error _) => []

/-- The steps of a drain where nothing waits for a worker. -/
def drainActs (context : LogContext) (o : Outbox) : List Act :=
  .read :: replayActs context o.journal.replayable o

/-- The steps of a dispatch where there is no worker. -/
def dispatchActs (context : LogContext) (hook : String) (payload : Json) (account : Option String)
    (o : Outbox) : List Act :=
  .append hook payload account ::
    deliverActs context ⟨o.journal.nextId, hook, payload⟩
      { o with journal := o.journal.append hook payload.text account }

variable {ι : Type} [DecidableEq ι] {M : ι → Int} {i : ι} {o : Outbox}
  {held : ι → List Delivery} {context : LogContext} {d : Delivery}

/-- The plugin calls of a delivery change neither the journal nor what is to be done. -/
theorem runs_calls {t : Shared ι} {later : List Delivery} (first : t.held i = d :: later)
    (entries : Transcript) :
    Runs M Any t ((entries.map (Act.call d)).map (i, ·)) t := by
  induction entries with
  | nil => exact .nil t
  | cons entry rest ih => exact .cons (.call first entry) trivial ih

/-- What is to be done after a delivery: what was left, or nothing where it could not be
recorded. -/
def remaining (later : List Delivery) : Except Failure RowStatus → List Delivery
  | .ok _ => later
  | .error _ => []

/-- After a delivery that could be recorded the rest is still to be done. -/
theorem remaining_of_isOk {later : List Delivery} {result : Except Failure RowStatus}
    (h : result.isOk = true) : remaining later result = later := by
  cases result with
  | ok => rfl
  | error => cases h

/-- After one that could not be, nothing is. -/
theorem remaining_of_not_isOk {later : List Delivery} {result : Except Failure RowStatus}
    (h : result.isOk = false) : remaining later result = [] := by
  cases result with
  | ok => cases h
  | error => rfl

/-- The steps of a delivery lead where the delivery leads. -/
theorem runs_deliver (held : ι → List Delivery) (context : LogContext) (d : Delivery)
    (hi : M i = o.bus.maxRetries) (later : List Delivery) :
    Runs M Any ⟨o.journal, Function.update held i (d :: later)⟩
      ((o.deliverActs context d).map (i, ·))
      ⟨(o.deliver context d).1.journal,
        Function.update held i (remaining later (o.deliver context d).2.2)⟩ := by
  let t : Shared ι := ⟨o.journal, Function.update held i (d :: later)⟩
  have first : t.held i = d :: later := Function.update_self ..
  rw [deliverActs, List.map_append]
  refine (runs_calls first _).trans (.single ?_ trivial)
  have hresult := deliver_isOk context d o
  rw [deliver_fst, Journal.record]
  cases hrecords : Journal.records o.bus.maxRetries (o.outcome context d) with
  | true =>
    rw [hrecords] at hresult
    have hrecorded : o.outcome context d = none ∨ Journal.fits (M i) := by
      simpa [Journal.records, hi] using hrecords
    have hstep := Step.settle (M := M) first hrecorded
    rw [Function.update_idem, hi] at hstep
    rw [if_pos rfl, if_pos rfl, remaining_of_isOk hresult]
    exact hstep
  | false =>
    rw [hrecords] at hresult
    have hstep := Step.abandon (M := M) (t := t) (i := i) List.nil_suffix
    rw [Function.update_idem] at hstep
    rw [if_neg Bool.false_ne_true, if_neg Bool.false_ne_true, remaining_of_not_isOk hresult]
    exact hstep

/-- The steps of the replay of rows lead where the replay leads. -/
theorem runs_replayAll (held : ι → List Delivery) (context : LogContext)
    (hi : M i = o.bus.maxRetries) (rs : List Row) :
    Runs M Any ⟨o.journal, Function.update held i (rs.map owed)⟩
      ((replayActs context rs o).map (i, ·))
      ⟨(replayAll context rs o).1.journal, Function.update held i []⟩ := by
  induction rs generalizing o with
  | nil => exact .nil _
  | cons r rest ih =>
    have hruns := runs_deliver held context (owed r) hi (rest.map owed)
    have hbus : (o.deliver context (owed r)).1.bus.maxRetries = o.bus.maxRetries := by
      rw [deliver_fst]
    rw [replayActs, replayAll, List.map_append]
    generalize o.deliver context (owed r) = delivery at hruns hbus ⊢
    obtain ⟨o', entries, result⟩ := delivery
    cases result with
    | ok => exact hruns.trans (ih (by rw [hi, hbus]))
    | error => exact hruns.trans (.nil _)

/-- The steps of a drain lead where the drain leads. -/
theorem runs_drain (hi : M i = o.bus.maxRetries) (free : held i = [])
    (hw : o.bus.waiting = none) :
    Runs M Any ⟨o.journal, held⟩ ((o.drainActs context).map (i, ·))
      ⟨(o.drain context).1.journal, held⟩ := by
  have hflush := flush_direct context hw
  have hruns := runs_replayAll held context hi o.journal.replayable
  have hheld : Function.update held i [] = held := by rw [← free, Function.update_eq_self]
  rw [hheld] at hruns
  have hdrain : (o.drain context).1 = (replayAll context o.journal.replayable o).1 := by
    simp only [drain, hflush]
  rw [hdrain, drainActs, List.map_cons]
  exact .cons (.read free) trivial hruns

/-- The steps of a dispatch lead where the dispatch leads. -/
theorem runs_dispatch (hi : M i = o.bus.maxRetries) (free : held i = [])
    (hw : o.bus.waiting = none) (hook : String) (payload : Json) (account : Option String) :
    Runs M Any ⟨o.journal, held⟩ ((o.dispatchActs context hook payload account).map (i, ·))
      ⟨(o.dispatch context hook payload account).1.journal, held⟩ := by
  have hheld : Function.update held i [] = held := by rw [← free, Function.update_eq_self]
  let written : Outbox := { o with journal := o.journal.append hook payload.text account }
  have hdispatch : (o.dispatch context hook payload account).1 =
      (written.deliver context ⟨o.journal.nextId, hook, payload⟩).1 := by
    simp only [dispatch, hw]
    rfl
  have hstep := Step.append (M := M) (i := i) (t := ⟨o.journal, held⟩) hook payload account
  simp only [free, List.nil_append] at hstep
  rw [hdispatch, dispatchActs, List.map_cons]
  refine .cons hstep trivial ?_
  have hruns := runs_deliver (o := written) held context ⟨o.journal.nextId, hook, payload⟩ hi []
  have hnone (r) : remaining [] r = [] := by cases r <;> rfl
  rw [hnone, hheld] at hruns
  exact hruns

end Outbox

end Voicemail
