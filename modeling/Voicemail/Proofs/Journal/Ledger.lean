import Mathlib.Data.List.Basic
import Mathlib.Data.List.Nodup
import Mathlib.Logic.Relation
import Mathlib.Order.Lattice
import Voicemail.Journal

/-!
# The ledger of a journal

A journal says how far the delivery of each event has come, but not how it came there. A `Ledger`
keeps beside the journal the events that were dispatched and the deliveries that were made. Two
things happen to it (`Ledger.Step`): an event is appended, or an event that is owed is delivered and
its row settled. `Ledger.Lawful` is what every step preserves: each row is the account of its own
deliveries (`Row.Lived`), and the rows are the dispatched events, numbered in order. `Ledger.Grows`
is how a ledger relates to a later one: nothing is removed, and what has ended does not change.
-/

namespace Voicemail

/-! ## Rows and their deliveries -/

/-- What an event is: the part of its row that no delivery touches. -/
structure JournaledEvent where
  hook : String
  payload : String
  account : Option String
  deriving DecidableEq, Repr

/-- The event of a row. -/
def Row.journaled (r : Row) : JournaledEvent := ⟨r.hook, r.payload, r.account⟩

/-- One delivery that was made: for which row, and whether the call of its hook failed. -/
structure Delivered where
  id : Nat
  failed : Bool
  deriving DecidableEq, Repr

/-- A row after a delivery with an outcome: the message of the failure, or none. -/
def Row.settle (maxRetries : Int) : Option String → Row → Row
  | none => Row.complete
  | some error => Row.fail error maxRetries

@[simp] theorem Row.settle_id (M : Int) (outcome : Option String) (r : Row) :
    (r.settle M outcome).id = r.id := by
  cases outcome <;> rfl

@[simp] theorem Row.settle_journaled (M : Int) (outcome : Option String) (r : Row) :
    (r.settle M outcome).journaled = r.journaled := by
  cases outcome <;> rfl

/-- A row that was settled is not pending. -/
theorem Row.settle_ne_pending (M : Int) (outcome : Option String) (r : Row) :
    (r.settle M outcome).status ≠ .pending := by
  cases outcome with
  | none => exact RowStatus.noConfusion
  | some error =>
    simp only [Row.settle, Row.fail]
    split <;> exact RowStatus.noConfusion

/-- The failures after which a row is given up: the greatest number of retries, but at least one. -/
def Journal.limit (maxRetries : Int) : Int := max 1 maxRetries

/-- What a row says about the outcomes of its deliveries, oldest first, where `true` is a failure:
every status fixes the outcomes and the other columns. -/
def Row.Lived (M : Int) (outcomes : List Bool) (r : Row) : Prop :=
  match r.status with
  | .pending => outcomes = [] ∧ r.retries = 0 ∧ r.error = none ∧ r.finished = false
  | .failed => outcomes = List.replicate r.retries true ∧ 1 ≤ r.retries ∧
      r.retries < Journal.limit M ∧ r.error.isSome ∧ r.finished = false
  | .deadLetter => outcomes = List.replicate r.retries true ∧ r.retries = Journal.limit M ∧
      r.error.isSome ∧ r.finished = true
  | .completed => outcomes = List.replicate r.retries true ++ [false] ∧
      r.retries < Journal.limit M ∧ r.finished = true

/-- A row that is delivered again has seen failures only, and not too many of them. -/
theorem Row.Lived.of_isReplayable {M : Int} {outcomes : List Bool} {r : Row}
    (h : r.Lived M outcomes) (ho : r.status.isReplayable) :
    outcomes = List.replicate r.retries true ∧ r.retries < Journal.limit M ∧
      (1 ≤ r.retries → r.retries < M) := by
  unfold Row.Lived at h
  cases hs : r.status with
  | pending =>
    rw [hs] at h
    obtain ⟨rfl, hr, -, -⟩ := h
    rw [hr]
    exact ⟨rfl, by simp [Journal.limit], by simp⟩
  | failed =>
    rw [hs] at h
    obtain ⟨ho, h1, hl, -, -⟩ := h
    refine ⟨ho, hl, fun _ => ?_⟩
    simp only [Journal.limit] at hl
    omega
  | completed | deadLetter => rw [hs] at ho; cases ho

/-- One more delivery of a row that is owed leaves a row that says so. The count reaches the limit
exactly where the row is exhausted, because a row that has failed before is below `M`. -/
theorem Row.Lived.settle {M : Int} {outcomes : List Bool} {r : Row} (h : r.Lived M outcomes)
    (ho : r.status.isReplayable) (outcome : Option String) :
    (r.settle M outcome).Lived M (outcomes ++ [outcome.isSome]) := by
  obtain ⟨rfl, hl, hM⟩ := h.of_isReplayable ho
  cases outcome with
  | none => exact ⟨rfl, hl, rfl⟩
  | some error =>
    have hrep : List.replicate r.retries true ++ [true] = List.replicate (r.retries + 1) true :=
      (List.replicate_succ' ..).symm
    simp only [Journal.limit] at hl
    cases hx : r.isExhausted M with
    | true =>
      have hle : M ≤ (r.retries : Int) + 1 := by simpa [Row.isExhausted] using hx
      simp only [Row.settle, Row.fail, Row.Lived, hx, if_true]
      refine ⟨hrep, ?_, rfl, trivial⟩
      simp only [Journal.limit]
      push_cast
      omega
    | false =>
      have hlt : (r.retries : Int) + 1 < M := by simpa [Row.isExhausted] using hx
      simp only [Row.settle, Row.fail, Row.Lived, hx]
      refine ⟨hrep, by omega, ?_, rfl, trivial⟩
      simp only [Journal.limit]
      push_cast
      omega

/-- A row is delivered no more often than the limit says. -/
theorem Row.Lived.length_le {M : Int} {outcomes : List Bool} {r : Row} (h : r.Lived M outcomes) :
    (outcomes.length : Int) ≤ Journal.limit M := by
  have hone : 1 ≤ Journal.limit M := le_max_left ..
  unfold Row.Lived at h
  cases hs : r.status with
  | pending =>
    rw [hs] at h
    obtain ⟨rfl, -⟩ := h
    simp only [List.length_nil]
    omega
  | failed =>
    rw [hs] at h
    obtain ⟨rfl, -, hlt, -⟩ := h
    rw [List.length_replicate]
    omega
  | deadLetter =>
    rw [hs] at h
    obtain ⟨rfl, heq, -⟩ := h
    rw [List.length_replicate]
    omega
  | completed =>
    rw [hs] at h
    obtain ⟨rfl, hlt, -⟩ := h
    rw [List.length_append, List.length_replicate, List.length_singleton]
    push_cast
    omega

/-- A row is completed exactly if a delivery of it has succeeded. -/
theorem Row.Lived.completed_iff {M : Int} {outcomes : List Bool} {r : Row}
    (h : r.Lived M outcomes) : r.status = .completed ↔ false ∈ outcomes := by
  unfold Row.Lived at h
  cases hs : r.status with
  | pending | failed | deadLetter =>
    rw [hs] at h
    obtain ⟨rfl, -⟩ := h
    simp
  | completed =>
    rw [hs] at h
    obtain ⟨rfl, -⟩ := h
    simp

/-- What a row has to say about the outcomes of its deliveries, column by column. The row counts the
failures, and it is completed by the one delivery that succeeded, which is the last. -/
structure Row.IsAccountOf (M : Int) (outcomes : List Bool) (r : Row) : Prop where
  pending : r.status = .pending → r.retries = 0 ∧ r.error = none ∧ r.finished = false
  failed : r.status = .failed →
    1 ≤ r.retries ∧ r.retries < Journal.limit M ∧ r.error.isSome ∧ r.finished = false
  deadLetter : r.status = .deadLetter →
    r.retries = Journal.limit M ∧ r.error.isSome ∧ r.finished = true
  completed : r.status = .completed → r.retries < Journal.limit M ∧ r.finished = true
  retries : r.retries = outcomes.count true
  completed_iff : r.status = .completed ↔ outcomes.count false = 1
  succeeded_last : false ∈ outcomes → outcomes.getLast? = some false

/-- A row that is owed has only failures behind it. -/
theorem Row.IsAccountOf.of_failures {M : Int} {r : Row} (ho : r.status.isReplayable)
    (hp : r.status = .pending → r.retries = 0 ∧ r.error = none ∧ r.finished = false)
    (hf : r.status = .failed →
      1 ≤ r.retries ∧ r.retries < Journal.limit M ∧ r.error.isSome ∧ r.finished = false) :
    r.IsAccountOf M (List.replicate r.retries true) where
  pending := hp
  failed := hf
  deadLetter := fun hs => by rw [hs] at ho; cases ho
  completed := fun hs => by rw [hs] at ho; cases ho
  retries := by simp
  completed_iff := by
    have hne : r.status ≠ .completed := fun hs => by rw [hs] at ho; cases ho
    simp [hne, List.count_replicate]
  succeeded_last := by simp

/-- The outcomes that a row lived through are what its columns say. -/
theorem Row.Lived.isAccountOf {M : Int} {outcomes : List Bool} {r : Row}
    (h : r.Lived M outcomes) : r.IsAccountOf M outcomes := by
  unfold Row.Lived at h
  cases hs : r.status with
  | pending =>
    simp only [hs] at h
    obtain ⟨rfl, hr, he, hc⟩ := h
    have := Row.IsAccountOf.of_failures (M := M) (r := r) (by rw [hs]; rfl)
      (fun _ => ⟨hr, he, hc⟩) (fun hs' => by rw [hs] at hs'; cases hs')
    rwa [hr] at this
  | failed =>
    simp only [hs] at h
    obtain ⟨rfl, hrest⟩ := h
    exact .of_failures (by rw [hs]; rfl) (fun hs' => by rw [hs] at hs'; cases hs') fun _ => hrest
  | deadLetter =>
    simp only [hs] at h
    obtain ⟨rfl, hrest⟩ := h
    exact ⟨by simp [hs], by simp [hs], fun _ => hrest, by simp [hs], by simp,
      by simp [hs, List.count_replicate], by simp⟩
  | completed =>
    simp only [hs] at h
    obtain ⟨rfl, hrest⟩ := h
    exact ⟨by simp [hs], by simp [hs], by simp [hs], fun _ => hrest, by simp,
      by simp [hs, List.count_replicate], by simp⟩

/-! ## Numbered rows -/

namespace Journal

variable {j j' : Journal}

/-- A new row is numbered next. -/
theorem ids_append (h : j.rows.map (·.id) = List.range' 1 j.rows.length)
    (hook payload : String) (account : Option String) :
    (j.append hook payload account).rows.map (·.id) =
      List.range' 1 (j.append hook payload account).rows.length := by
  simp only [append, List.map_append, h, List.length_append, List.length_singleton,
    List.range'_concat, List.map_cons, List.map_nil, nextId]
  rw [Nat.add_comm 1, Nat.one_mul]

/-- What a change of one row keeps of it stays the same of all rows. -/
theorem map_update {α : Type} (j : Journal) (id : Nat) {f : Row → Row} {g : Row → α}
    (h : ∀ r, g (f r) = g r) : (j.update id f).rows.map g = j.rows.map g := by
  rw [update, List.map_map]
  refine List.map_congr_left fun r _ => ?_
  rw [Function.comp_apply]
  split
  · exact h r
  · rfl

/-- Rows that are changed under their numbers are found as the changed ones. -/
theorem row?_map {g : Row → Row} (hg : ∀ r, (g r).id = r.id) (h : j'.rows = j.rows.map g)
    (id : Nat) : j'.row? id = (j.row? id).map g := by
  have hcomp : (fun r : Row => decide (r.id = id)) ∘ g = fun r : Row => decide (r.id = id) :=
    funext fun r => by rw [Function.comp_apply, hg]
  rw [row?, h, List.find?_map, hcomp, row?]

/-- A number whose rows are not changed has the status that it had. -/
theorem statusOf_map {g : Row → Row} (hg : ∀ r, (g r).id = r.id) (h : j'.rows = j.rows.map g)
    {id : Nat} (hsame : ∀ r : Row, r.id = id → g r = r) : j'.statusOf id = j.statusOf id := by
  rw [statusOf, statusOf, row?_map hg h]
  cases hrow : j.row? id with
  | none => rfl
  | some r =>
    have hid : r.id = id := by simpa using List.find?_some hrow
    rw [Option.map_some, hsame r hid]

/-- A number that has a row is found. -/
theorem exists_row? {id : Nat} (h : ∃ r ∈ j.rows, r.id = id) :
    ∃ r, j.row? id = some r ∧ r ∈ j.rows ∧ r.id = id := by
  obtain ⟨r, hr, hid⟩ := h
  have hsome : (j.row? id).isSome := List.find?_isSome.2 ⟨r, hr, by simpa using hid⟩
  obtain ⟨s, hs⟩ := Option.isSome_iff_exists.1 hsome
  exact ⟨s, hs, List.mem_of_find?_eq_some hs, by simpa using List.find?_some hs⟩

/-- The status of a row of a journal in which no number stands twice. -/
theorem statusOf_of_mem (hids : (j.rows.map (·.id)).Nodup) {r : Row} (hr : r ∈ j.rows) :
    j.statusOf r.id = r.status := by
  obtain ⟨s, hs, hmem, hid⟩ := exists_row? ⟨r, hr, rfl⟩
  rw [statusOf, hs, List.inj_on_of_nodup_map hids hmem hr hid]
  rfl

/-- A row that is changed has the status that the change gives it. -/
theorem exists_statusOf_update {id : Nat} (h : ∃ r ∈ j.rows, r.id = id)
    {f : Row → Row} (hf : ∀ r, (f r).id = r.id) :
    ∃ r ∈ j.rows, r.id = id ∧ (j.update id f).statusOf id = (f r).status := by
  obtain ⟨r, hr, hmem, hid⟩ := exists_row? h
  have hids (s : Row) : (if s.id = id then f s else s).id = s.id := by
    split
    · exact hf s
    · rfl
  have hrows : (j.update id f).rows = j.rows.map fun s => if s.id = id then f s else s := rfl
  refine ⟨r, hmem, hid, ?_⟩
  rw [statusOf, row?_map hids hrows, hr, Option.map_some, if_pos hid]
  rfl

end Journal

/-! ## Steps -/

/-- A journal with what happened to it so far. -/
structure Ledger where
  journal : Journal
  /-- The deliveries that were made, oldest first. -/
  made : List Delivered
  /-- The events that were dispatched, oldest first. -/
  dispatched : List JournaledEvent

namespace Ledger

/-- The outcomes of the deliveries of one row, oldest first. -/
def outcomes (made : List Delivered) (id : Nat) : List Bool :=
  (made.filter (·.id = id)).map (·.failed)

/-- A row of which no delivery was made has no outcomes. -/
theorem outcomes_eq_nil {made : List Delivered} {id : Nat} (h : ∀ d ∈ made, d.id ≠ id) :
    outcomes made id = [] := by
  simpa [outcomes] using h

/-- What can happen to a ledger at once. -/
inductive Step (M : Int) : Ledger → Ledger → Prop
  /-- An event is written to the journal. -/
  | append (l : Ledger) (e : JournaledEvent) :
      Step M l ⟨l.journal.append e.hook e.payload e.account, l.made, l.dispatched ++ [e]⟩
  /-- An event that is owed is delivered, and its row settled. -/
  | deliver (l : Ledger) {r : Row} (hr : r ∈ l.journal.rows) (ho : r.status.isReplayable)
      (outcome : Option String) :
      Step M l ⟨l.journal.update r.id (Row.settle M outcome),
        l.made ++ [⟨r.id, outcome.isSome⟩], l.dispatched⟩

/-- Any number of steps. -/
def Steps (M : Int) : Ledger → Ledger → Prop := Relation.ReflTransGen (Step M)

/-! ## What every step preserves -/

/-- Every row is the account of its deliveries, and the rows are the dispatched events with the
numbers from one on. -/
structure Lawful (M : Int) (l : Ledger) : Prop where
  ids : l.journal.rows.map (·.id) = List.range' 1 l.journal.rows.length
  lived : ∀ r ∈ l.journal.rows, r.Lived M (outcomes l.made r.id)
  known : ∀ d ∈ l.made, d.id ≤ l.journal.rows.length
  events : l.journal.rows.map Row.journaled = l.dispatched

/-- A journal in which nothing was written yet is lawful. -/
theorem Lawful.empty (M : Int) : Lawful M ⟨.empty, [], []⟩ :=
  ⟨rfl, by simp [Journal.empty], by simp, rfl⟩

/-- No row has a number beyond the number of rows. -/
theorem Lawful.id_le {M : Int} {l : Ledger} (h : l.Lawful M) {r : Row}
    (hr : r ∈ l.journal.rows) : r.id ≤ l.journal.rows.length := by
  have hmem : r.id ∈ l.journal.rows.map (·.id) := List.mem_map_of_mem hr
  rw [h.ids, List.mem_range'_1] at hmem
  omega

/-- The ids of the rows rise. -/
theorem Lawful.pairwise {M : Int} {l : Ledger} (h : l.Lawful M) :
    (l.journal.rows.map (·.id)).Pairwise (· < ·) := by
  rw [h.ids]
  exact List.pairwise_lt_range'

/-- No two rows have one id. -/
theorem Lawful.eq_of_id {M : Int} {l : Ledger} (h : l.Lawful M) {r s : Row}
    (hr : r ∈ l.journal.rows) (hs : s ∈ l.journal.rows) (he : r.id = s.id) : r = s :=
  List.inj_on_of_nodup_map (h.pairwise.imp fun hlt => hlt.ne) hr hs he

/-- A new row is numbered next and has no delivery. -/
theorem Lawful.append {M : Int} {l : Ledger} (h : l.Lawful M) (e : JournaledEvent) :
    Lawful M ⟨l.journal.append e.hook e.payload e.account, l.made, l.dispatched ++ [e]⟩ where
  ids := Journal.ids_append h.ids e.hook e.payload e.account
  lived := by
    intro r hr
    rcases List.mem_append.1 hr with hr | hr
    · exact h.lived r hr
    · rw [List.mem_singleton.1 hr]
      refine ⟨outcomes_eq_nil fun d hd => ?_, rfl, rfl, rfl⟩
      have := h.known d hd
      simp only [Journal.nextId]
      omega
  known := by
    intro d hd
    have := h.known d hd
    simp only [Journal.append, List.length_append, List.length_singleton]
    omega
  events := by
    simp only [Journal.append, List.map_append, h.events]
    rfl

/-- Settling the row of a delivery keeps the other rows and their accounts. -/
theorem Lawful.deliver {M : Int} {l : Ledger} (h : l.Lawful M) {r : Row}
    (hr : r ∈ l.journal.rows) (ho : r.status.isReplayable) (outcome : Option String) :
    Lawful M ⟨l.journal.update r.id (Row.settle M outcome),
      l.made ++ [⟨r.id, outcome.isSome⟩], l.dispatched⟩ where
  ids := by
    rw [Journal.map_update _ _ (Row.settle_id M outcome), h.ids, Journal.update, List.length_map]
  lived := by
    intro s hs
    obtain ⟨t, ht, rfl⟩ := List.mem_map.1 hs
    by_cases he : t.id = r.id
    · obtain rfl := h.eq_of_id ht hr he
      simpa [outcomes] using (h.lived t ht).settle ho outcome
    · simpa [outcomes, he, Ne.symm he] using h.lived t ht
  known := by
    intro d hd
    simp only [Journal.update, List.length_map]
    rcases List.mem_append.1 hd with hd | hd
    · exact h.known d hd
    · rw [List.mem_singleton.1 hd]
      exact h.id_le hr
  events := by
    rw [Journal.map_update _ _ (Row.settle_journaled M outcome), h.events]

/-- A step preserves lawfulness. -/
theorem Step.lawful {M : Int} {l l' : Ledger} (hs : Step M l l') (h : l.Lawful M) :
    l'.Lawful M := by
  cases hs with
  | append e => exact h.append e
  | deliver hr ho outcome => exact h.deliver hr ho outcome

/-- Any number of steps preserve lawfulness. -/
theorem Steps.lawful {M : Int} {l l' : Ledger} (hs : Steps M l l') (h : l.Lawful M) :
    l'.Lawful M := by
  induction hs with
  | refl => exact h
  | tail _ hstep ih => exact hstep.lawful ih

/-! ## How a ledger grows -/

/-- The second ledger is a later state of the first: every row is still there as the same event, and
a row that has ended is unchanged and was not delivered again. -/
structure Grows (l l' : Ledger) : Prop where
  rows : ∀ r ∈ l.journal.rows, ∃ r' ∈ l'.journal.rows, r'.id = r.id ∧
    r'.journaled = r.journaled ∧ (r.status.isReplayable = false → r' = r)
  made : ∃ more, l'.made = l.made ++ more ∧
    ∀ r ∈ l.journal.rows, r.status.isReplayable = false → ∀ d ∈ more, d.id ≠ r.id

/-- A ledger is a later state of itself. -/
theorem Grows.refl (l : Ledger) : Grows l l :=
  ⟨fun r hr => ⟨r, hr, rfl, rfl, fun _ => rfl⟩, [], by simp, by simp⟩

/-- A later state of a later state is a later state. -/
theorem Grows.trans {l₁ l₂ l₃ : Ledger} (h₁ : Grows l₁ l₂) (h₂ : Grows l₂ l₃) : Grows l₁ l₃ where
  rows := by
    intro r hr
    obtain ⟨s, hs, hid, he, hend⟩ := h₁.rows r hr
    obtain ⟨t, ht, hid', he', hend'⟩ := h₂.rows s hs
    refine ⟨t, ht, hid'.trans hid, he'.trans he, fun hr' => ?_⟩
    obtain rfl := hend hr'
    exact hend' hr'
  made := by
    obtain ⟨xs, hxs, hx⟩ := h₁.made
    obtain ⟨ys, hys, hy⟩ := h₂.made
    refine ⟨xs ++ ys, by rw [hys, hxs, List.append_assoc], fun r hr hend d hd => ?_⟩
    rcases List.mem_append.1 hd with hd | hd
    · exact hx r hr hend d hd
    · obtain ⟨s, hs, _, _, hsame⟩ := h₁.rows r hr
      obtain rfl := hsame hend
      exact hy s hs hend d hd

/-- A step of a lawful ledger leads to a later state: what is delivered was owed, so it is no row
that has ended. -/
theorem Step.grows {M : Int} {l l' : Ledger} (hs : Step M l l') (h : l.Lawful M) :
    Grows l l' := by
  cases hs with
  | append e =>
    exact ⟨fun r hr => ⟨r, List.mem_append_left _ hr, rfl, rfl, fun _ => rfl⟩, [], by simp, by simp⟩
  | @deliver r hr ho outcome =>
    refine ⟨fun s hs => ⟨_, List.mem_map_of_mem hs, ?_, ?_, fun hend => ?_⟩, _, rfl, ?_⟩
    · split <;> simp
    · split <;> simp
    · rw [if_neg]
      intro he
      obtain rfl := h.eq_of_id hs hr he
      rw [ho] at hend
      cases hend
    · intro s hs hend d hd he
      rw [List.mem_singleton.1 hd] at he
      obtain rfl := h.eq_of_id hr hs he
      rw [ho] at hend
      cases hend

/-- Any number of steps of a lawful ledger lead to a later state. -/
theorem Steps.grows {M : Int} {l l' : Ledger} (hs : Steps M l l') (h : l.Lawful M) :
    Grows l l' := by
  induction hs with
  | refl => exact .refl l
  | tail hsteps hstep ih => exact ih.trans (hstep.grows (Steps.lawful hsteps h))

end Ledger

end Voicemail
