import Voicemail.Proofs.Json.RoundTrip
import Voicemail.Proofs.Outbox.Acts

/-!
# The journal and what was dispatched

The journal keeps every event that was dispatched (`Journal.Keeps`): its rows say, one after
another, which events those were, because a payload that can be stored reads back from its text
(`Journal.Keeps.append`), and settling a row says nothing else of its event
(`Journal.Keeps.settle`). So each step of the buses at a journal adds to it what the step
dispatches, and no bus comes to hold a delivery of anything else (`Shared.Step.faithful`,
`Shared.Runs.faithful`). In particular a plugin is called only for an event that has a row
(`Shared.Runs.mem_of_call`).
-/

namespace Voicemail

/-! ## What a row says of its event -/

/-- The delivery that a row is about, if its payload can be read. -/
def Row.event? (r : Row) : Option Delivery := (Json.restore? r.payload).map (⟨r.id, r.hook, ·⟩)

/-- A row owes the delivery that it is about. -/
theorem Row.owed_of_event? {r : Row} {d : Delivery} (h : r.event? = some d) :
    Outbox.owed r = d := by
  obtain ⟨v, hv, rfl⟩ := Option.map_eq_some_iff.1 h
  rw [Outbox.owed, hv, Option.getD_some]

/-- How a delivery came out says nothing else of its event. -/
theorem Row.event?_settle (M : Int) (outcome : Option String) (r : Row) :
    (r.settle M outcome).event? = r.event? := by
  cases outcome <;> rfl

namespace Journal

variable {j : Journal} {ds : List Delivery}

/-- The rows of a journal are about some events, in their order, and can all be read. -/
def Keeps (j : Journal) (ds : List Delivery) : Prop := j.rows.map Row.event? = ds.map some

/-- An empty journal keeps that nothing was dispatched. -/
theorem keeps_empty : Keeps .empty [] := rfl

namespace Keeps

/-- Settling a row keeps what was dispatched. -/
theorem settle (h : j.Keeps ds) (M : Int) (id : Nat) (outcome : Option String) :
    (j.update id (Row.settle M outcome)).Keeps ds := by
  rw [Keeps, update, List.map_map, ← h]
  refine List.map_congr_left fun r _ => ?_
  rw [Function.comp_apply]
  split
  · exact Row.event?_settle M outcome r
  · rfl

/-- The next id is one more than the number of events. -/
theorem nextId (h : j.Keeps ds) : j.nextId = ds.length + 1 := by
  have hlength := congrArg List.length h
  rw [List.length_map, List.length_map] at hlength
  rw [Journal.nextId, hlength]

/-- The row of an event is about the delivery that its dispatch makes. -/
theorem append (h : j.Keeps ds) {payload : Json} (hp : payload.IsStorable) (hook : String)
    (account : Option String) :
    (j.append hook payload.text account).Keeps (ds ++ [⟨ds.length + 1, hook, payload⟩]) := by
  rw [Keeps, Journal.append, List.map_append, List.map_append, h, h.nextId, List.map_singleton,
    List.map_singleton, Row.event?, Json.restore?_text hp.unlimited, Option.map_some]

/-- Every event that was dispatched has a row. -/
theorem exists_row (h : j.Keeps ds) {d : Delivery} (hd : d ∈ ds) :
    ∃ r ∈ j.rows, r.event? = some d := by
  have hmem : some d ∈ j.rows.map Row.event? := by
    rw [h]
    exact List.mem_map_of_mem hd
  exact List.mem_map.1 hmem

/-- Every row owes the delivery of its event. -/
theorem map_owed (h : j.Keeps ds) : j.rows.map Outbox.owed = ds := by
  refine List.map_injective_iff.2 (Option.some_injective Delivery) (.trans ?_ h)
  rw [List.map_map]
  refine List.map_congr_left fun r hr => ?_
  have hmem : r.event? ∈ ds.map some := by
    rw [← h]
    exact List.mem_map_of_mem hr
  obtain ⟨d, -, hd⟩ := List.mem_map.1 hmem
  rw [Function.comp_apply, Row.owed_of_event? hd.symm, hd]

/-- What is delivered again are events that were dispatched, in their order. -/
theorem replayable_sublist (h : j.Keeps ds) : (j.replayable.map Outbox.owed).Sublist ds :=
  h.map_owed ▸ List.filter_sublist.map Outbox.owed

end Keeps

end Journal

/-! ## What was dispatched -/

namespace Act

/-- The dispatched events after one more step, each as the delivery that its dispatch makes. -/
def addEvent (ds : List Delivery) : Act → List Delivery
  | .append hook payload _ => ds ++ [⟨ds.length + 1, hook, payload⟩]
  | .read | .call _ _ | .settle _ _ | .abandon _ => ds

/-- A step that writes nothing which cannot be stored. -/
def IsStorable : Act → Prop
  | .append _ payload _ => payload.IsStorable
  | .read | .call _ _ | .settle _ _ | .abandon _ => True

/-- An event that was dispatched stays dispatched. -/
theorem mem_foldl_addEvent {ds : List Delivery} {d : Delivery} (hd : d ∈ ds) (acts : List Act) :
    d ∈ acts.foldl addEvent ds := by
  induction acts generalizing ds with
  | nil => exact hd
  | cons a rest ih =>
    refine ih ?_
    cases a with
    | append => exact List.mem_append_left _ hd
    | _ => exact hd

/-- The events that were dispatched in some steps, numbered from one on. -/
def dispatched (acts : List Act) : List Delivery := acts.foldl addEvent []

/-- What was dispatched in some steps comes before what is dispatched in later ones. -/
theorem dispatched_append (acts more : List Act) :
    dispatched (acts ++ more) = more.foldl addEvent (dispatched acts) :=
  List.foldl_append ..

/-- Events stay numbered from one on. -/
theorem ids_foldl_addEvent {ds : List Delivery} (h : ds.map (·.id) = List.range' 1 ds.length)
    (acts : List Act) :
    (acts.foldl addEvent ds).map (·.id) = List.range' 1 (acts.foldl addEvent ds).length := by
  induction acts generalizing ds with
  | nil => exact h
  | cons a rest ih =>
    refine ih ?_
    cases a with
    | append hook payload account =>
      simp only [addEvent, List.map_append, h, List.length_append, List.length_singleton,
        List.range'_concat, List.map_cons, List.map_nil]
      rw [Nat.add_comm 1, Nat.one_mul]
    | _ => exact h

/-- The numbers of dispatched events rise. -/
theorem pairwise_dispatched (acts : List Act) :
    ((dispatched acts).map (·.id)).Pairwise (· < ·) := by
  rw [dispatched, ids_foldl_addEvent rfl acts]
  exact List.pairwise_lt_range'

end Act

namespace Shared

variable {ι : Type} [DecidableEq ι] {M : ι → Int} {P : Shared ι → Prop} {t t' : Shared ι} {i : ι}
  {a : Act} {acts : List (ι × Act)} {ds : List Delivery}

/-- The journal keeps some events, and whatever a bus has still to deliver is one of them. -/
structure Faithful (t : Shared ι) (ds : List Delivery) : Prop where
  keeps : t.journal.Keeps ds
  held : ∀ i, ∀ d ∈ t.held i, d ∈ ds

/-- A bus may come to hold other deliveries of events that the journal keeps. -/
theorem Faithful.update {j : Journal} {held : ι → List Delivery} {later : List Delivery}
    (hkeeps : j.Keeps ds) (hheld : ∀ i, ∀ d ∈ held i, d ∈ ds) (hlater : ∀ d ∈ later, d ∈ ds) :
    Faithful ⟨j, Function.update held i later⟩ ds := by
  refine ⟨hkeeps, fun k d hd => ?_⟩
  dsimp only at hd
  by_cases hk : k = i
  · subst hk
    rw [Function.update_self] at hd
    exact hlater d hd
  · rw [Function.update_of_ne hk] at hd
    exact hheld k d hd

/-- What a step adds to the journal is what it adds to the dispatched events. -/
theorem Step.faithful (hstep : Step M t i a t') (h : t.Faithful ds) (ha : a.IsStorable) :
    t'.Faithful (a.addEvent ds) := by
  cases hstep with
  | append hook payload account =>
    rw [h.keeps.nextId]
    have hstay (k : ι) : ∀ d ∈ t.held k, d ∈ Act.addEvent ds (.append hook payload account) :=
      fun d hd => List.mem_append_left _ (h.held k d hd)
    refine .update (h.keeps.append ha hook account) hstay fun d hd => ?_
    obtain hd | hd := List.mem_append.1 hd
    · exact hstay i d hd
    · exact List.mem_append_right _ hd
  | read =>
    -- What rows owe is read from their texts, which is where the payloads have to read back.
    exact .update h.keeps h.held fun d hd => h.keeps.replayable_sublist.subset hd
  | call => exact h
  | @settle d later first outcome =>
    refine .update (h.keeps.settle ..) h.held fun e he => h.held i e ?_
    rw [first]
    exact .tail _ he
  | abandon rest => exact .update h.keeps h.held fun d hd => h.held i d (rest.subset hd)

/-- After any run the journal keeps what was dispatched. -/
theorem Runs.faithful (hruns : Runs M P t acts t') (h : t.Faithful ds)
    (hacts : ∀ x ∈ acts, x.2.IsStorable) :
    t'.Faithful ((acts.map (·.2)).foldl Act.addEvent ds) := by
  induction hruns generalizing ds with
  | nil => exact h
  | cons step _ _ ih =>
    exact ih (step.faithful h (hacts _ (.head _))) fun x hx => hacts x (.tail _ hx)

/-- A plugin is called only for an event that was dispatched. -/
theorem Runs.mem_of_call (hruns : Runs M P t acts t') (h : t.Faithful ds)
    (hacts : ∀ x ∈ acts, x.2.IsStorable) {d : Delivery} {entry : Entry}
    (hcall : (i, .call d entry) ∈ acts) : d ∈ (acts.map (·.2)).foldl Act.addEvent ds := by
  induction hruns generalizing ds with
  | nil => cases hcall
  | cons step _ _ ih =>
    obtain hcall | hcall := List.mem_cons.1 hcall
    · cases hcall
      cases step with
      | call first =>
        refine Act.mem_foldl_addEvent (h.held i d ?_) _
        rw [first]
        exact .head _
    · exact ih (step.faithful h (hacts _ (.head _))) (fun x hx => hacts x (.tail _ hx)) hcall

end Shared

end Voicemail
