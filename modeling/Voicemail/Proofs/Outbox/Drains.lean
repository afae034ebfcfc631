import Voicemail.Proofs.Installation.Lifecycle
import Voicemail.Proofs.Json.RoundTrip
import Voicemail.Proofs.Outbox.Trials

/-!
# Repeated drains

A drain delivers once each row that is owed when the flush is over, oldest first, touches no other
row, and gives what has become of them (`Outbox.DrainsOwed`). A row that is still owed afterwards
has failed once more without being exhausted, so after as many drains as there are retries, and one
at least, nothing is owed, and further drains do nothing (`Outbox.IsSpent`). The plugins may be
others at every drain. Both need a greatest number of retries that the journal can compare with, and
no more (`Outbox.drains_iff`).
-/

namespace Voicemail

/-! ## Journals that come about -/

/-- A journal that comes about when rows are written, and settled by whichever deliveries. -/
inductive Journal.Reachable : Journal → Prop
  | empty : Reachable .empty
  | append {j : Journal} (h : Reachable j) (hook payload : String) (account : Option String) :
      Reachable (j.append hook payload account)
  | settle {j : Journal} (h : Reachable j) (M : Int) (id : Nat) (outcome : Option String) :
      Reachable (j.update id (Row.settle M outcome))

namespace Journal

variable {j j' : Journal}

/-- The rows of a journal that comes about are numbered from one on. -/
theorem Reachable.ids (h : j.Reachable) : j.rows.map (·.id) = List.range' 1 j.rows.length := by
  induction h with
  | empty => rfl
  | append _ hook payload account ih => exact ids_append ih hook payload account
  | settle _ M id outcome ih =>
    rw [map_update _ _ (Row.settle_id M outcome), ih, length_update]

/-- Their numbers rise. -/
theorem Reachable.pairwise (h : j.Reachable) : (j.rows.map (·.id)).Pairwise (· < ·) := by
  rw [h.ids]
  exact List.pairwise_lt_range'

/-- What comes of a delivery leads to a journal that comes about, whether it can be recorded or not.
-/
theorem Reachable.record (h : j.Reachable) (M : Int) (d : Delivery) (outcome : Option String) :
    (j.record M d outcome).Reachable := by
  unfold Journal.record
  split
  · exact h.settle M d.id outcome
  · exact h

end Journal

/-- What happens to a ledger leads from one journal that comes about to another. -/
theorem Ledger.Steps.reachable {M : Int} {l l' : Ledger} (hs : Steps M l l')
    (h : l.journal.Reachable) : l'.journal.Reachable := by
  induction hs with
  | refl => exact h
  | tail _ hstep ih =>
    cases hstep with
    | append e => exact ih.append ..
    | deliver hr ho outcome => exact ih.settle ..

/-- The journals of installations come about so. -/
theorem Site.run_reachable {M : Int} (hM : Journal.fits M) {i : Installation}
    (h : i.IsFresh M true) (ops : List Operation) :
    ((start i).run ops).installation.client.journal.Reachable := by
  obtain ⟨hready, hlawful⟩ := start_ready h
  have hempty : (start i).ledger.journal.Reachable := by
    rw [ledger, start, h.journal]
    exact .empty
  exact (run_steps hM hready hlawful ops).1.reachable hempty

/-- A trial leads from one journal that comes about to another. -/
theorem Trial.reachable {t : Trial} (hc : t.byWorker = true → t.context = .empty)
    (h : t.before.journal.Reachable) : t.after.journal.Reachable := by
  rw [t.after_eq hc]
  dsimp only
  split
  · exact h.record ..
  · exact h

namespace Outbox

variable {context : LogContext} {o : Outbox}

/-- So does a flush, -/
theorem reachable_flush (context : LogContext) (h : o.journal.Reachable) :
    (o.flush context).1.journal.Reachable := by
  unfold flush
  cases o.bus.waiting with
  | none => exact h
  | some ds =>
    exact (flushTrials_invariant (P := fun o => o.journal.Reachable) (Q := fun _ => True)
      (fun _ _ _ h => Trial.reachable (fun _ => rfl) h) context (fun _ _ => trivial) h).2

/-- and so does a drain. -/
theorem reachable_drain (context : LogContext) (h : o.journal.Reachable) :
    (o.drain context).1.journal.Reachable :=
  (replayTrials_invariant (P := fun o => o.journal.Reachable) (Q := fun _ => True)
    (fun _ _ _ h => Trial.reachable nofun h) (fun _ _ => trivial)
    (reachable_flush context h)).2

/-! ## One drain -/

/-- Where a failure can be recorded, a delivery gives the status that its row then has. -/
theorem deliver_statusOf (hM : Journal.fits o.bus.maxRetries) (context : LogContext)
    {d : Delivery} (hd : ∃ r ∈ o.journal.rows, r.id = d.id) :
    (o.deliver context d).2.2 = .ok ((o.deliver context d).1.journal.statusOf d.id) := by
  unfold deliver
  obtain ⟨registry, entries, result⟩ := o.bus.registry.callNamed context d.hook d.payload
  cases result with
  | error e => simp only [withRegistry, hM, if_true]
  | ok =>
    obtain ⟨r, -, -, hstatus⟩ := Journal.exists_statusOf_update hd (f := Row.complete) fun _ => rfl
    exact congrArg Except.ok hstatus.symm

/-- Replaying rows delivers each of them once, settles them and no others, and gives the statuses
that they then have. -/
theorem replayAll_settles (hM : Journal.fits o.bus.maxRetries) (context : LogContext)
    {rs : List Row} (hnodup : (rs.map (·.id)).Nodup)
    (hmem : ∀ r ∈ rs, ∃ s ∈ o.journal.rows, s.id = r.id) :
    (replayTrials context rs o).map (·.delivery) = rs.map owed ∧
    (∃ outcomes : Nat → Option String, (replayAll context rs o).1.journal.rows =
      o.journal.rows.map fun s =>
        if s.id ∈ rs.map (·.id) then s.settle o.bus.maxRetries (outcomes s.id) else s) ∧
    (replayAll context rs o).2.2 = .ok (rs.map fun r =>
      ⟨r.id, r.hook, (replayAll context rs o).1.journal.statusOf r.id⟩) := by
  induction rs generalizing o with
  | nil => exact ⟨rfl, ⟨fun _ => none, by simp [replayAll]⟩, rfl⟩
  | cons r rest ih =>
    obtain ⟨hnew, hnodup⟩ := List.nodup_cons.1 hnodup
    have hstatus := deliver_statusOf hM context (d := owed r) (hmem r (.head _))
    have hfst := deliver_fst context (owed r) o
    generalize hdelivery : o.deliver context (owed r) = delivery at hstatus hfst
    obtain ⟨o₁, entries, result⟩ := delivery
    dsimp only at hstatus hfst
    subst hstatus
    let first (s : Row) : Row :=
      if s.id = r.id then s.settle o.bus.maxRetries (o.outcome context (owed r)) else s
    have hrows : o₁.journal.rows = o.journal.rows.map first := by
      rw [hfst, Journal.record, Journal.records, hM, Bool.or_true, if_pos rfl]
      rfl
    have hbus : o₁.bus.maxRetries = o.bus.maxRetries := by rw [hfst]
    have hfirst (s : Row) : (first s).id = s.id := by
      simp only [first]
      split
      · exact Row.settle_id ..
      · rfl
    obtain ⟨htrials, ⟨outcomes, hrest⟩, hresult⟩ := ih (o := o₁) (by rw [hbus]; exact hM) hnodup
      fun q hq => by
        obtain ⟨s, hs, hid⟩ := hmem q (.tail _ hq)
        exact ⟨first s, by rw [hrows]; exact List.mem_map_of_mem hs, by rw [hfirst, hid]⟩
    rw [replayTrials, replayAll, hdelivery]
    refine ⟨congrArg (owed r :: ·) htrials, ⟨fun id => if id = r.id then
      o.outcome context (owed r) else outcomes id, ?_⟩, ?_⟩
    · dsimp only
      rw [hrest, hrows, List.map_map, hbus]
      refine List.map_congr_left fun s _ => ?_
      rw [Function.comp_apply, hfirst]
      by_cases hid : s.id = r.id
      · simp [hid, hnew, first]
      · simp [hid, first]
    · -- The rows that come later have other numbers, so the status of the first one stays.
      have hstay : (replayAll context rest o₁).1.journal.statusOf r.id =
          o₁.journal.statusOf r.id := by
        refine Journal.statusOf_map (fun s => ?_) hrest fun s hs => if_neg (hs ▸ hnew)
        split
        · exact Row.settle_id ..
        · rfl
      dsimp only
      rw [hresult, List.map_cons, hstay]
      rfl

/-- A flush changes of a bus its plugins and what waits. -/
theorem flush_bus (context : LogContext) (o : Outbox) :
    ∃ registry waiting, (o.flush context).1.bus = { o.bus with registry, waiting } := by
  unfold flush
  cases o.bus.waiting with
  | none => exact ⟨o.bus.registry, o.bus.waiting, rfl⟩
  | some ds =>
    obtain ⟨registry, hbus⟩ : ∃ registry,
        (flushAll context ds o).1.bus = { o.bus with registry } := (flushTrials_invariant
      (P := fun o' => ∃ registry, o'.bus = { o.bus with registry }) (Q := fun _ => True)
      (fun o' d _ ⟨_, hbus⟩ => ⟨_, by rw [Trial.after_eq _ fun _ => rfl, hbus]⟩) context
      (fun _ _ => trivial) ⟨o.bus.registry, rfl⟩).2
    exact ⟨registry, some [], by dsimp only; rw [hbus]⟩

/-- The rows that a drain delivers: those that are owed when the flush is over. -/
def owing (context : LogContext) (o : Outbox) : List Row :=
  (o.flush context).1.journal.replayable

/-- A drain leaves what the replay of the rows leaves that are owed after the flush. -/
theorem drain_fst (context : LogContext) (o : Outbox) :
    (o.drain context).1 = (replayAll context (o.owing context) (o.flush context).1).1 := rfl

/-- A drain keeps the greatest number of retries, and leaves nothing waiting. -/
theorem drain_bus (context : LogContext) (o : Outbox) :
    (o.drain context).1.bus.maxRetries = o.bus.maxRetries ∧ (o.drain context).1.pending = [] := by
  obtain ⟨registry, waiting, hflush⟩ := flush_bus context o
  obtain ⟨registry', hreplay⟩ :=
    replayAll_bus context (o.owing context) (o.flush context).1
  rw [drain_fst, pending, hreplay]
  exact ⟨by rw [hflush], pending_flush context o⟩

/-- The trials in which a drain delivers them. -/
def replays (context : LogContext) (o : Outbox) : List Trial :=
  replayTrials context (o.owing context) (o.flush context).1

/-- A drain delivers what is owed and says what has become of it. -/
structure DrainsOwed (context : LogContext) (o : Outbox) : Prop where
  /-- Each row is delivered once, and no other. -/
  deliveries : (o.replays context).map (·.delivery) = (o.owing context).map owed
  /-- The oldest first. -/
  rising : ((o.owing context).map (·.id)).Pairwise (· < ·)
  /-- Beside the flush, the plugins are called in these deliveries only. -/
  hooks : (o.drain context).2.1.hooks =
    (o.flush context).2.hooks ++ (o.replays context).flatMap Trial.hooks
  /-- The rows are settled, and no others. -/
  rows : ∃ outcomes : Nat → Option String, (o.drain context).1.journal.rows =
    (o.flush context).1.journal.rows.map fun r =>
      if r.status.isReplayable then r.settle o.bus.maxRetries (outcomes r.id) else r
  /-- The result has them in the same order, with the statuses that they have now. -/
  result : (o.drain context).2.2 = .ok ((o.owing context).map fun r =>
    ⟨r.id, r.hook, (o.drain context).1.journal.statusOf r.id⟩)
  /-- None of them is left as if it had never been delivered. -/
  settled : ∀ r ∈ o.owing context, (o.drain context).1.journal.statusOf r.id ≠ .pending

/-- Where failures can be recorded, a drain settles the rows that are owed. -/
theorem drainsOwed (hM : Journal.fits o.bus.maxRetries) (hj : o.journal.Reachable)
    (context : LogContext) : o.DrainsOwed context := by
  obtain ⟨_, _, hbus⟩ := flush_bus context o
  have hretries : (o.flush context).1.bus.maxRetries = o.bus.maxRetries := by rw [hbus]
  have hids := (reachable_flush context hj).pairwise
  have hrising : ((o.owing context).map (·.id)).Pairwise (· < ·) :=
    hids.sublist (List.filter_sublist.map _)
  have hnodup : ((o.flush context).1.journal.rows.map (·.id)).Nodup := hids.imp (·.ne)
  obtain ⟨hdeliveries, ⟨outcomes, hrows⟩, hresult⟩ := replayAll_settles
    (o := (o.flush context).1) (by rw [hretries]; exact hM) context
    (hrising.imp (·.ne)) fun r hr => ⟨r, (List.mem_filter.1 hr).1, rfl⟩
  have hsettled : (o.drain context).1.journal.rows =
      (o.flush context).1.journal.rows.map fun r =>
        if r.status.isReplayable then r.settle o.bus.maxRetries (outcomes r.id) else r := by
    refine hrows.trans (List.map_congr_left fun r hr => ?_)
    have howing : r.id ∈ (o.owing context).map (·.id) ↔ r.status.isReplayable := by
      refine ⟨fun h => ?_, fun h => List.mem_map_of_mem (List.mem_filter.2 ⟨hr, h⟩)⟩
      obtain ⟨s, hs, hid⟩ := List.mem_map.1 h
      obtain ⟨hs, ho⟩ := List.mem_filter.1 hs
      rwa [List.inj_on_of_nodup_map hnodup hr hs hid.symm]
    simp only [howing, hretries]
  refine ⟨hdeliveries, hrising, ?_, ⟨outcomes, hsettled⟩, hresult, fun r hr => ?_⟩
  · rw [replays, ← replayAll_hooks]
    exact Transcript.hooks_append ..
  · obtain ⟨hr, ho⟩ := List.mem_filter.1 hr
    have hnow := List.mem_map_of_mem
      (f := fun r : Row =>
        if r.status.isReplayable then r.settle o.bus.maxRetries (outcomes r.id) else r) hr
    rw [← hsettled] at hnow
    simp only [ho, if_true] at hnow
    have hstatus := Journal.statusOf_of_mem
      ((reachable_drain context hj).pairwise.imp (·.ne)) hnow
    rw [Row.settle_id] at hstatus
    rw [hstatus]
    exact Row.settle_ne_pending _ _ r

/-! ## One drain after another -/

/-- Drains one after another; before each of them the plugins change somehow, or not at all. -/
def drains (context : LogContext) : List (Registry → Registry) → Outbox → Outbox
  | [], o => o
  | change :: rest, o =>
    drains context rest ((o.withRegistry (change o.bus.registry)).drain context).1

/-- Nothing is owed, and a drain does nothing, whatever plugins there are. -/
structure IsSpent (context : LogContext) (o : Outbox) : Prop where
  nothingOwed : ∀ r ∈ o.journal.rows, r.status ≠ .pending ∧ r.status ≠ .failed
  nothingDone : ∀ registry : Registry,
    (o.withRegistry registry).drain context = (o.withRegistry registry, [], .ok [])

/-- Every row that is still owed has failed so many times, and is not exhausted if it has failed at
all. -/
def Tried (M : Int) (times : Nat) (j : Journal) : Prop :=
  ∀ r ∈ j.rows, r.status.isReplayable →
    times ≤ r.retries ∧ (1 ≤ times → Int.ofNat r.retries < M)

/-- A row that is still owed when it has been settled has failed once more. -/
theorem isReplayable_settle {M : Int} {outcome : Option String} {r : Row}
    (h : (r.settle M outcome).status.isReplayable) :
    (r.settle M outcome).retries = r.retries + 1 ∧ Int.ofNat r.retries + 1 < M := by
  cases outcome with
  | none => cases h
  | some error =>
    refine ⟨rfl, ?_⟩
    simp only [Row.settle, Row.fail] at h
    cases hx : r.isExhausted M with
    | true =>
      rw [hx] at h
      cases h
    | false => simpa [Row.isExhausted] using hx

/-- An outbox after so many drains: nothing waits, and every row that is still owed has failed so
many times. -/
structure DrainedFor (M : Int) (times : Nat) (o : Outbox) : Prop where
  reachable : o.journal.Reachable
  retries : o.bus.maxRetries = M
  nothingWaits : o.pending = []
  tried : Tried M times o.journal

variable {M : Int} {times : Nat}

/-- One more drain, one more failure of each row that is still owed. -/
theorem drainedFor_drain (hM : Journal.fits M) (hj : o.journal.Reachable)
    (hm : o.bus.maxRetries = M) (context : LogContext)
    (h : Tried M times (o.flush context).1.journal) :
    (o.drain context).1.DrainedFor M (times + 1) := by
  subst hm
  obtain ⟨hretries, hnone⟩ := drain_bus context o
  obtain ⟨outcomes, hrows⟩ := (drainsOwed hM hj context).rows
  refine ⟨reachable_drain context hj, hretries, hnone, fun r hr ho => ?_⟩
  rw [hrows] at hr
  obtain ⟨s, hs, rfl⟩ := List.mem_map.1 hr
  cases hrep : s.status.isReplayable with
  | false =>
    simp only [hrep, Bool.false_eq_true, if_false] at ho
  | true =>
    simp only [hrep, if_true] at ho ⊢
    obtain ⟨hretries, hlt⟩ := isReplayable_settle ho
    obtain ⟨hle, -⟩ := h s hs hrep
    rw [hretries]
    exact ⟨Nat.succ_le_succ hle, fun _ => by simpa using hlt⟩

/-- After more drains every row that is still owed has failed so many times more. -/
theorem DrainedFor.drains (hM : Journal.fits M) (h : o.DrainedFor M times) (context : LogContext)
    (changes : List (Registry → Registry)) :
    (o.drains context changes).DrainedFor M (times + changes.length) := by
  induction changes generalizing o times with
  | nil => exact h
  | cons change rest ih =>
    have hflush := flush_nothing context (o := o.withRegistry (change o.bus.registry))
      h.nothingWaits
    have hstep := drainedFor_drain (o := o.withRegistry (change o.bus.registry)) hM h.reachable
      h.retries context (by rw [hflush]; exact h.tried)
    rw [List.length_cons, Nat.add_comm rest.length, ← Nat.add_assoc]
    exact ih hstep

/-- Where nothing is owed and nothing waits, an outbox is spent. -/
theorem isSpent_of (context : LogContext) (hw : o.pending = [])
    (h : ∀ r ∈ o.journal.rows, r.status.isReplayable = false) : o.IsSpent context where
  nothingOwed r hr := by
    have := h r hr
    constructor <;> · intro hs; rw [hs] at this; cases this
  nothingDone registry := by
    have hflush := flush_nothing context (o := o.withRegistry registry) hw
    have hnone : o.journal.replayable = [] := by
      simpa [Journal.replayable, List.filter_eq_nil_iff] using h
    have hrows : (o.withRegistry registry).journal.replayable = [] := hnone
    simp only [drain, hflush, hrows, replayAll, List.append_nil]

/-- As many drains as there are retries, and one at least, leave an outbox spent. -/
theorem isSpent_drains (hM : Journal.fits M) (hj : o.journal.Reachable)
    (hm : o.bus.maxRetries = M) (context : LogContext) {changes : List (Registry → Registry)}
    (hn : Journal.limit M ≤ changes.length) : (o.drains context changes).IsSpent context := by
  cases changes with
  | nil =>
    simp only [Journal.limit, List.length_nil] at hn
    omega
  | cons change rest =>
    -- What waited was delivered by the first drain, whatever had been tried before.
    have hfirst := drainedFor_drain (o := o.withRegistry (change o.bus.registry)) hM hj hm context
      fun _ _ _ => ⟨Nat.zero_le _, fun h => absurd h (Nat.not_succ_le_zero 0)⟩
    have hlast := hfirst.drains hM context rest
    refine isSpent_of context hlast.nothingWaits fun r hr => ?_
    cases ho : r.status.isReplayable with
    | false => rfl
    | true =>
      obtain ⟨hle, hlt⟩ := hlast.tried r hr ho
      have := hlt (Nat.le_add_right ..)
      simp only [Journal.limit, List.length_cons] at hn
      simp only [Int.ofNat_eq_natCast] at this
      omega

/-! ## Both together -/

/-- An outbox that owes an event at which its plugin has failed once, and will fail again. -/
def overdue (M : Int) : Outbox where
  journal := (Journal.empty.append Hook.vvmEvent.name Site.someEvent.text none).update 1
    (Row.settle 2 (some "boom"))
  bus := ⟨{ members := [("p", .plugin Site.failing)] }, M, none, true⟩

/-- Such an outbox comes about where the greatest number of retries was smaller before. -/
theorem overdue_reachable (M : Int) : (overdue M).journal.Reachable :=
  (Journal.Reachable.empty.append ..).settle ..

/-- Where the journal cannot compare with the greatest number of retries, a drain stops at the first
failure and gives nothing. -/
theorem overdue_drain {M : Int} (hM : ¬Journal.fits M) :
    ((overdue M).drain .empty).2.2 = .error .integerRange := by
  have hstorable : Site.someEvent.Fits false :=
    ⟨by decide, trivial, trivial, trivial, trivial, trivial⟩
  have hrows : (overdue M).journal.replayable =
      [⟨1, Hook.vvmEvent.name, Site.someEvent.text, none, .failed, some "boom", 1, false⟩] := rfl
  have hcall : ((overdue M).bus.registry.callNamed .empty Hook.vvmEvent.name Site.someEvent).2.2 =
      .error (.fault ⟨.runtime, "boom"⟩) := rfl
  have hdeliver : ((overdue M).deliver .empty ⟨1, Hook.vvmEvent.name, Site.someEvent⟩).2.2 =
      .error .integerRange := by
    generalize hbus : (overdue M).bus.registry.callNamed .empty Hook.vvmEvent.name
      Site.someEvent = call at hcall
    obtain ⟨registry, entries, result⟩ := call
    obtain rfl : result = _ := hcall
    have hretries : (overdue M).bus.maxRetries = M := rfl
    simp only [deliver, hbus, withRegistry, hretries, hM]
    rfl
  have hflush : (overdue M).flush .empty = (overdue M, []) := flush_nothing .empty rfl
  have howed : owed ⟨1, Hook.vvmEvent.name, Site.someEvent.text, none, .failed, some "boom", 1,
      false⟩ = ⟨1, Hook.vvmEvent.name, Site.someEvent⟩ := by
    simp only [owed, Json.restore?_text hstorable, Option.getD_some]
  simp only [drain, hflush, hrows, replayAll, howed]
  generalize (overdue M).deliver .empty ⟨1, Hook.vvmEvent.name, Site.someEvent⟩ = delivery
    at hdeliver
  obtain ⟨o, entries, result⟩ := delivery
  obtain rfl : result = _ := hdeliver
  rfl

/-- Every drain of every journal that comes about delivers what is owed, and enough of them leave
nothing to be done, exactly if the journal can compare with the greatest number of retries. -/
theorem drains_iff (M : Int) :
    (∀ o : Outbox, o.journal.Reachable → o.bus.maxRetries = M → ∀ context,
      o.DrainsOwed context ∧ ∀ changes : List (Registry → Registry),
        Journal.limit M ≤ changes.length → (o.drains context changes).IsSpent context) ↔
      Journal.fits M = true := by
  constructor
  · intro h
    by_contra hM
    obtain ⟨howed, -⟩ := h (overdue M) (overdue_reachable M) rfl .empty
    have hresult := howed.result
    rw [overdue_drain hM] at hresult
    cases hresult
  · rintro hM o hj rfl context
    exact ⟨drainsOwed hM hj context, fun changes hn => isSpent_drains hM hj rfl context hn⟩

/-- With `2 ^ 63` retries a drain of an event at which its plugin fails again does not come to an
end. -/
theorem not_drainsOwed_overdue :
    (overdue 9223372036854775808).journal.Reachable ∧
      ¬(overdue 9223372036854775808).DrainsOwed .empty := by
  refine ⟨overdue_reachable _, fun h => ?_⟩
  have hresult := h.result
  rw [overdue_drain (by decide)] at hresult
  cases hresult

end Outbox

end Voicemail
