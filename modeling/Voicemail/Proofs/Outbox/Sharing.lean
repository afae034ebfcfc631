import Voicemail.Proofs.Outbox.Acts

/-!
# Two buses at one journal

Two buses may work at one journal, one in an application and one on the command line. Each reads the
rows that are owed, calls plugins, and settles a row by its id without another look at it. While no
row is held by both (`Shared.Apart`) their steps are those of one ledger (`Shared.Runs.ledger`), so
a row that has ended stays as it is, and if the buses give up after equally many failures no row
counts more of them. A row that both hold is settled twice, also after it has ended; and a bus that
gives up sooner counts on where the other one left off (`endures_iff`).
-/

namespace Voicemail

open Shared

/-! ## Rows that are owed -/

namespace Journal.Owes

variable {j : Journal} {ids : List Nat}

/-- Some of the rows that are owed are owed. -/
theorem sublist {fewer : List Nat} (h : j.Owes ids) (hsub : fewer.Sublist ids) : j.Owes fewer :=
  ⟨h.1.sublist hsub, fun id hid => h.2 id (hsub.subset hid)⟩

/-- Rows stay owed when another row is written. -/
theorem append_other (h : j.Owes ids) (hook payload : String) (account : Option String) :
    (j.append hook payload account).Owes ids := by
  refine ⟨h.1, fun id hid => ?_⟩
  obtain ⟨r, hr, he, ho⟩ := h.2 id hid
  exact ⟨r, List.mem_append_left _ hr, he, ho⟩

/-- Rows stay owed when another row is settled. -/
theorem update_other (h : j.Owes ids) {id : Nat} (hid : id ∉ ids) (f : Row → Row) :
    (j.update id f).Owes ids := by
  refine ⟨h.1, fun k hk => ?_⟩
  obtain ⟨r, hr, rfl, ho⟩ := h.2 k hk
  refine ⟨r, List.mem_map.2 ⟨r, hr, if_neg ?_⟩, rfl, ho⟩
  rintro rfl
  exact hid hk

end Journal.Owes

/-- Buses that give up after equally many failures record the same outcomes. -/
theorem Row.settle_congr {M N : Int} (h : Journal.limit M = Journal.limit N) :
    Row.settle M = Row.settle N := by
  funext outcome r
  cases outcome with
  | none => rfl
  | some error =>
    have hexhausted : r.isExhausted M = r.isExhausted N := by
      simp only [Journal.limit] at h
      simp only [Row.isExhausted, decide_eq_decide, Int.ofNat_eq_natCast]
      omega
    simp only [Row.settle, Row.fail, hexhausted]

/-- A row that lived through its deliveries counts no more failures than it may. -/
theorem Row.Lived.retries_le {M : Int} {outcomes : List Bool} {r : Row} (h : r.Lived M outcomes) :
    r.retries ≤ Journal.limit M := by
  have haccount := h.isAccountOf
  cases hs : r.status with
  | pending =>
    rw [(haccount.pending hs).1]
    simp only [Journal.limit]
    omega
  | failed => exact (haccount.failed hs).2.1.le
  | deadLetter => exact (haccount.deadLetter hs).1.le
  | completed => exact (haccount.completed hs).1.le

namespace Shared

variable {ι : Type} {M : ι → Int} {P : Shared ι → Prop} {N : Int} {t t' : Shared ι} {i : ι}
  {a : Act}
  {acts : List (ι × Act)}

/-- No row is held by two buses. -/
def Apart (t : Shared ι) : Prop :=
  ∀ i j, i ≠ j → ∀ d ∈ t.held i, ∀ e ∈ t.held j, d.id ≠ e.id

/-- A number of failures after which every bus gives up that can record any. -/
def IsCommon (M : ι → Int) (N : Int) : Prop :=
  ∀ i, Journal.fits (M i) → Journal.limit (M i) = Journal.limit N

/-- What a bus records is what any bus with a common number would record. -/
theorem IsCommon.settle (hN : IsCommon M N) {outcome : Option String}
    (recorded : outcome = none ∨ Journal.fits (M i)) :
    Row.settle (M i) outcome = Row.settle N outcome := by
  obtain rfl | hM := recorded
  · rfl
  · rw [Row.settle_congr (hN i hM)]

/-- What a step adds to the history of a ledger. -/
def made : Act → List Delivered
  | .settle d outcome => [⟨d.id, outcome.isSome⟩]
  | _ => []

/-- The event that a step writes to the journal. -/
def written : Act → List JournaledEvent
  | .append hook payload account => [⟨hook, payload.text, account⟩]
  | _ => []

/-- The deliveries that were settled in a run. -/
def settled (acts : List (ι × Act)) : List Delivered := acts.flatMap fun x => made x.2

/-- The events that were written in a run. -/
def appended (acts : List (ι × Act)) : List JournaledEvent := acts.flatMap fun x => written x.2

/-- What the buses hold is owed to each. -/
def Owing (t : Shared ι) : Prop := ∀ i, t.journal.Owes ((t.held i).map (·.id))

/-- Nothing is held at the start. -/
theorem start_apart : (start : Shared ι).Apart := fun _ _ _ _ hd => nomatch hd

/-- So whatever is held there is owed. -/
theorem start_owing : (start : Shared ι).Owing := fun _ => .nil _

variable [DecidableEq ι]

/-- A bus takes up other deliveries that are owed, and the others keep theirs. -/
theorem owing_update {j : Journal} {held : ι → List Delivery} {ds : List Delivery}
    (hds : j.Owes (ds.map (·.id)))
    (hothers : ∀ k, k ≠ i → j.Owes ((held k).map (·.id))) :
    Owing ⟨j, Function.update held i ds⟩ := by
  intro k
  by_cases hk : k = i
  · subst hk
    simpa using hds
  · simpa [hk] using hothers k hk

/-- A step of a bus that holds a row with nobody is none or one step of the ledger, and what is held
is owed again. -/
theorem Step.ledger (hstep : Step M t i a t') (hN : IsCommon M N) (hapart : t.Apart)
    (howing : t.Owing) {earlier : List Delivered} {past : List JournaledEvent}
    (hl : Ledger.Lawful N ⟨t.journal, earlier, past⟩) :
    Ledger.Steps N ⟨t.journal, earlier, past⟩
        ⟨t'.journal, earlier ++ made a, past ++ written a⟩ ∧ t'.Owing := by
  cases hstep with
  | append hook payload account =>
    have happend := Ledger.Step.append (M := N) ⟨t.journal, earlier, past⟩
      ⟨hook, payload.text, account⟩
    refine ⟨by simpa [made, written] using .single happend, owing_update ?_ fun k _ => ?_⟩
    · simpa using (howing i).append hl hook payload.text account
    · exact (howing k).append_other hook payload.text account
  | read free =>
    refine ⟨by simpa [made, written] using .refl, owing_update ?_ fun k _ => howing k⟩
    rw [Outbox.map_id_owed]
    exact hl.owes_replayable
  | call first entry => exact ⟨by simpa [made, written] using .refl, howing⟩
  | @settle d later first outcome recorded =>
    have hfirst := howing i
    rw [first, List.map_cons] at hfirst
    obtain ⟨hstep, hlater⟩ := hfirst.deliver N outcome earlier past
    rw [hN.settle recorded]
    refine ⟨by simpa [made, written] using .single hstep, owing_update hlater fun k hk => ?_⟩
    -- What another bus still owes is another row, because no row is held by two.
    refine (howing k).update_other ?_ _
    intro hmem
    obtain ⟨e, he, hid⟩ := List.mem_map.1 hmem
    exact hapart k i hk e he d (first ▸ .head _) hid
  | abandon rest =>
    refine ⟨by simpa [made, written] using .refl, owing_update ?_ fun k _ => howing k⟩
    exact (howing i).sublist (rest.sublist.map _)

/-- A run in which no row is held by two buses is a run of one ledger. -/
theorem Runs.ledger (h : Runs M Apart t acts t') (hN : IsCommon M N) (hapart : t.Apart)
    (howing : t.Owing) {earlier : List Delivered} {past : List JournaledEvent}
    (hl : Ledger.Lawful N ⟨t.journal, earlier, past⟩) :
    Ledger.Steps N ⟨t.journal, earlier, past⟩
        ⟨t'.journal, earlier ++ settled acts, past ++ appended acts⟩ ∧ t'.Owing ∧ t'.Apart := by
  induction h generalizing earlier past with
  | nil => exact ⟨by simpa [settled, appended] using .refl, howing, hapart⟩
  | cons step within rest ih =>
    obtain ⟨hfirst, howing'⟩ := step.ledger hN hapart howing hl
    obtain ⟨hrest, hlast⟩ := ih within howing' (hfirst.lawful hl)
    rw [List.append_assoc, List.append_assoc] at hrest
    exact ⟨hfirst.trans hrest, hlast⟩

/-! ## What survives -/

/-- From one state of a run to a later one: a row that has ended is unchanged, and was not settled
again in between. -/
def Keeps (t : Shared ι) (acts : List (ι × Act)) (t' : Shared ι) : Prop :=
  ∀ r ∈ t.journal.rows, r.status.isReplayable = false →
    r ∈ t'.journal.rows ∧ ∀ i d outcome, (i, Act.settle d outcome) ∈ acts → d.id ≠ r.id

/-- Where a step of a bus changes how many failures a row counts, they are not more than after which
the bus gives up. -/
def CountsUpTo (limit : Int) (t t' : Shared ι) : Prop :=
  ∀ r ∈ t.journal.rows, ∀ r' ∈ t'.journal.rows, r'.id = r.id →
    r'.retries = r.retries ∨ r'.retries ≤ limit

/-- Whatever the buses do from an empty journal on, as long as the states are ones of `P`: rows that
have ended survive, and no bus counts more failures than after which it gives up. -/
structure Endures (M : ι → Int) (P : Shared ι → Prop) : Prop where
  keeps : ∀ {past t acts t'}, Runs M P start past t → Runs M P t acts t' → Keeps t acts t'
  counts : ∀ {past t i a t'}, Runs M P start past t → Step M t i a t' → P t' →
    CountsUpTo (Journal.limit (M i)) t t'

/-- While no row is held by two buses, a journal is a lawful ledger. -/
theorem Runs.lawful (h : Runs M Apart start acts t) (hN : IsCommon M N) :
    Ledger.Lawful N ⟨t.journal, settled acts, appended acts⟩ ∧ t.Owing ∧ t.Apart := by
  obtain ⟨hsteps, hlast⟩ := h.ledger hN start_apart start_owing (Ledger.Lawful.empty N)
  exact ⟨hsteps.lawful (Ledger.Lawful.empty N), hlast⟩

/-- While no row is held by two buses, rows that have ended survive. -/
theorem Runs.keeps {past : List (ι × Act)} (hpast : Runs M Apart start past t)
    (h : Runs M Apart t acts t') (hN : IsCommon M N) : Keeps t acts t' := by
  intro r hr hend
  obtain ⟨hl, howing, hapart⟩ := hpast.lawful hN
  obtain ⟨hsteps, -⟩ := h.ledger hN hapart howing hl
  have hgrows := hsteps.grows hl
  obtain ⟨r', hr', -, -, hsame⟩ := hgrows.rows r hr
  obtain rfl := hsame hend
  refine ⟨hr', fun i d outcome hact hid => ?_⟩
  obtain ⟨more, hmore, hnot⟩ := hgrows.made
  have hmem : ⟨d.id, outcome.isSome⟩ ∈ settled acts :=
    List.mem_flatMap.2 ⟨_, hact, List.mem_singleton.2 rfl⟩
  rw [List.append_cancel_left hmore] at hmem
  exact hnot r' hr hend _ hmem hid

/-- While no row is held by two buses, none counts too many failures. -/
theorem Runs.counts {past : List (ι × Act)} (hpast : Runs M Apart start past t)
    (hstep : Step M t i a t') (hN : IsCommon M N) :
    CountsUpTo (Journal.limit (M i)) t t' := by
  intro r hr r' hr' hid
  obtain ⟨hl, howing, hapart⟩ := hpast.lawful hN
  have hl' := (hstep.ledger hN hapart howing hl).1.lawful hl
  cases hstep with
  | append hook payload account =>
    obtain rfl := hl'.eq_of_id hr' (List.mem_append_left _ hr) hid
    exact .inl rfl
  | read | call | abandon =>
    obtain rfl := hl.eq_of_id hr' hr hid
    exact .inl rfl
  | @settle d later first outcome recorded =>
    obtain ⟨q, hq, rfl⟩ := List.mem_map.1 hr'
    have hqid : q.id = r.id := by
      rw [← hid]
      split <;> simp
    obtain rfl := hl.eq_of_id hq hr hqid
    obtain rfl | hM := recorded
    · refine .inl ?_
      split <;> rfl
    · rw [hN i hM]
      exact .inr (hl'.lived _ hr').retries_le

/-- Buses that give up after equally many failures keep the rows of a journal as long as none is
held by two of them. -/
theorem endures_apart (hN : IsCommon M N) : Endures M Apart where
  keeps hpast h := hpast.keeps h hN
  counts hpast hstep _ := hpast.counts hstep hN

/-! ## What does not -/

/-- A journal at which one bus has something to do, and no other. -/
def busy (j : Journal) (i : ι) (ds : List Delivery) : Shared ι :=
  ⟨j, Function.update (fun _ => []) i ds⟩

@[simp] theorem busy_held_self (j : Journal) (i : ι) (ds : List Delivery) :
    (busy j i ds).held i = ds := by
  simp [busy]

/-- Where nobody has anything to do it does not matter who. -/
theorem busy_nil (j : Journal) (i k : ι) : busy j i [] = busy j k [] := by
  simp [busy]

/-- One bus alone holds no row with another. -/
theorem busy_apart (j : Journal) (i : ι) (ds : List Delivery) : (busy j i ds).Apart := by
  intro k l hkl d hd e he
  by_cases hk : k = i
  · have hl : l ≠ i := fun hl => hkl (hk.trans hl.symm)
    simp [busy, hl] at he
  · simp [busy, hk] at hd

/-- The row of an event that was just written to an empty journal. -/
def firstRow : Row := ⟨1, "vvm_event", Json.text .null, none, .pending, none, 0, false⟩

/-- A bus by itself writes an event, and has to deliver it. -/
theorem step_append (M : ι → Int) (i : ι) :
    Step M start i (.append "vvm_event" .null none)
      (busy ⟨[firstRow]⟩ i [⟨1, "vvm_event", .null⟩]) :=
  .append "vvm_event" .null none

/-- A bus with nothing to do reads the one row, which is owed. -/
theorem step_read (M : ι → Int) {t : Shared ι} {r : Row} (hj : t.journal = ⟨[r]⟩)
    (free : t.held i = []) (ho : r.status.isReplayable) :
    Step M t i .read ⟨⟨[r]⟩, Function.update t.held i [Outbox.owed r]⟩ := by
  have hread := Step.read (M := M) free
  have hrows : (⟨[r]⟩ : Journal).replayable = [r] := by
    simp only [Journal.replayable, List.filter_cons, ho, if_true, List.filter_nil]
  rwa [hj, hrows] at hread

/-- A bus settles the one row, as the only thing that it has to do. -/
theorem step_settle {t : Shared ι} {r : Row} {d : Delivery} (hj : t.journal = ⟨[r]⟩)
    (first : t.held i = [d]) (hd : d.id = r.id) (outcome : Option String)
    (recorded : outcome = none ∨ Journal.fits (M i)) :
    Step M t i (.settle d outcome)
      ⟨⟨[r.settle (M i) outcome]⟩, Function.update t.held i []⟩ := by
  have hsettle := Step.settle (M := M) first recorded
  have hrows : (⟨[r]⟩ : Journal).update d.id (Row.settle (M i) outcome) =
      ⟨[r.settle (M i) outcome]⟩ := by
    simp [Journal.update, hd]
  rwa [hj, hrows] at hsettle

/-- A bus by itself reads a row that is owed, and its delivery fails. -/
theorem steps_fail (hM : Journal.fits (M i)) {r : Row} (ho : r.status.isReplayable) :
    Step M (busy ⟨[r]⟩ i []) i .read (busy ⟨[r]⟩ i [Outbox.owed r]) ∧
      Step M (busy ⟨[r]⟩ i [Outbox.owed r]) i (.settle (Outbox.owed r) (some "boom"))
        (busy ⟨[r.fail "boom" (M i)]⟩ i []) := by
  have hread := step_read M (i := i) (t := busy ⟨[r]⟩ i []) rfl (busy_held_self _ _ _) ho
  have hsettle := step_settle (M := M) (i := i) (t := busy ⟨[r]⟩ i [Outbox.owed r]) rfl
    (busy_held_self _ _ _) rfl (some "boom") (.inr hM)
  simp only [busy, Function.update_idem] at hread hsettle
  exact ⟨hread, hsettle⟩

/-- A bus by itself can let the delivery of one event fail as long as it does not give up, and the
row is still owed. -/
theorem runs_failures (hM : Journal.fits (M i)) (k : Nat) (hk : k < Journal.limit (M i)) :
    ∃ acts r, Runs M Apart start acts (busy ⟨[r]⟩ i []) ∧ r.retries = k ∧
      r.status.isReplayable := by
  induction k with
  | zero =>
    have habandon := Step.abandon (M := M) (i := i)
      (t := busy ⟨[firstRow]⟩ i [⟨1, "vvm_event", .null⟩]) List.nil_suffix
    simp only [busy, Function.update_idem] at habandon
    exact ⟨_, _, .cons (step_append M i) (busy_apart _ _ _) (.single habandon (busy_apart _ _ _)),
      rfl, rfl⟩
  | succ k ih =>
    obtain ⟨acts, r, hruns, hr, ho⟩ := ih (by omega)
    obtain ⟨hread, hfail⟩ := steps_fail hM ho
    refine ⟨_, _, hruns.trans
      (.cons hread (busy_apart _ _ _) (.single hfail (busy_apart _ _ _))), ?_, ?_⟩
    · rw [Row.fail, hr]
    · have hgoes : r.isExhausted (M i) = false := by
        simp only [Journal.limit] at hk
        simp only [Row.isExhausted, decide_eq_false_iff_not, Int.ofNat_eq_natCast, hr]
        omega
      rw [Row.fail, hgoes]
      rfl

/-- A bus that gives up sooner than another counts on where that one left off, although no row is
held by both. -/
theorem not_endures_apart {k : ι} (hi : Journal.fits (M i)) (hk : Journal.fits (M k))
    (hlt : Journal.limit (M i) < Journal.limit (M k)) : ¬Endures M Apart := by
  intro h
  have hpos : 1 ≤ Journal.limit (M i) := le_max_left ..
  obtain ⟨acts, r, hruns, hr, ho⟩ := runs_failures hk (Journal.limit (M i)).toNat (by omega)
  rw [busy_nil _ k i] at hruns
  obtain ⟨hread, hfail⟩ := steps_fail hi ho
  have hcounts := h.counts (hruns.trans (.single hread (busy_apart _ _ _))) hfail
    (busy_apart _ _ _) r (.head _) _ (.head _) rfl
  simp only [Row.fail, hr] at hcounts
  omega

/-- Two buses that hold one row settle it one after the other: the second by what came of its own
hook call, whatever the first has recorded. -/
theorem runs_twice {k : ι} (hik : i ≠ k) (outcome outcome' : Option String)
    (recorded : outcome = none ∨ Journal.fits (M i))
    (recorded' : outcome' = none ∨ Journal.fits (M k)) :
    ∃ past t t', Runs M Any start past t ∧
      Runs M Any t [(k, .settle (Outbox.owed firstRow) outcome')] t' ∧
      t.journal = ⟨[firstRow.settle (M i) outcome]⟩ ∧
      t'.journal = ⟨[(firstRow.settle (M i) outcome).settle (M k) outcome']⟩ := by
  have hread := step_read M (i := k) (t := busy ⟨[firstRow]⟩ i [⟨1, "vvm_event", .null⟩]) rfl
    (by simp [busy, hik.symm]) rfl
  have hfirst := step_settle (M := M) (i := i) (d := ⟨1, "vvm_event", .null⟩)
    (t := ⟨⟨[firstRow]⟩, Function.update (busy ⟨[firstRow]⟩ i [⟨1, "vvm_event", .null⟩]).held k
      [Outbox.owed firstRow]⟩) rfl (by simp [hik]) rfl outcome recorded
  have hsecond := step_settle (M := M) (i := k) (d := Outbox.owed firstRow)
    (r := firstRow.settle (M i) outcome)
    (t := ⟨⟨[firstRow.settle (M i) outcome]⟩, Function.update (Function.update
      (busy ⟨[firstRow]⟩ i [⟨1, "vvm_event", .null⟩]).held k [Outbox.owed firstRow]) i []⟩) rfl
    (by simp [hik.symm]) (Row.settle_id ..).symm outcome' recorded'
  exact ⟨_, _, _, .cons (step_append M i) trivial (.cons hread trivial (.single hfirst trivial)),
    .single hsecond trivial, rfl, rfl⟩

/-- Where two buses may hold one row, rows that have ended do not survive. -/
theorem not_endures_any {k : ι} (hik : i ≠ k) : ¬Endures M Any := by
  intro h
  obtain ⟨past, t, t', hpast, hruns, hj, -⟩ :=
    runs_twice (M := M) hik none none (.inl rfl) (.inl rfl)
  have hmem : firstRow.complete ∈ t.journal.rows := by
    rw [hj]
    exact .head _
  exact (h.keeps hpast hruns _ hmem rfl).2 k _ none (.head _) rfl

end Shared

/-! ## Two buses -/

/-- The two buses at the journal of an installation. -/
inductive Party where
  | application
  | commandLine
  deriving DecidableEq

/-- The two give up after equally many failures, if both can record a failure at all. -/
def Party.Agree (M : Party → Int) : Prop :=
  Journal.fits (M .application) → Journal.fits (M .commandLine) →
    Journal.limit (M .application) = Journal.limit (M .commandLine)

/-- Where they agree there is a number after which each gives up. -/
theorem Party.Agree.isCommon {M : Party → Int} (h : Party.Agree M) : ∃ N, IsCommon M N := by
  by_cases ha : Journal.fits (M .application) = true
  · refine ⟨M .application, fun i hi => ?_⟩
    cases i with
    | application => rfl
    | commandLine => exact (h ha hi).symm
  · refine ⟨M .commandLine, fun i hi => ?_⟩
    cases i with
    | application => exact absurd hi ha
    | commandLine => rfl

/-- Rows that have ended survive two buses exactly if the buses hold no row at the same time and
give up after equally many failures. -/
theorem endures_iff (M : Party → Int) :
    (Endures M Apart ↔ Party.Agree M) ∧ ¬Endures M Any := by
  refine ⟨⟨fun h ha hc => ?_, fun h => ?_⟩, not_endures_any (i := .application) (k := .commandLine)
    (by decide)⟩
  · obtain hlt | heq | hgt := lt_trichotomy (Journal.limit (M .application))
      (Journal.limit (M .commandLine))
    · exact absurd h (not_endures_apart ha hc hlt)
    · exact heq
    · exact absurd h (not_endures_apart hc ha hgt)
  · obtain ⟨N, hN⟩ := h.isCommon
    exact endures_apart hN

/-- Two buses that both read a row before one of them settles it: a completed row is failed again,
and a dead letter counts two failures where each bus gives up after one. And one after the other,
where the first gives up after two failures and the second after one. -/
theorem not_endures_overlapping :
    (∃ past acts t t', Runs (fun _ : Party => 3) Any start past t ∧
        Runs (fun _ : Party => 3) Any t acts t' ∧
        t.journal.rows.map (fun r => (r.status, r.retries, r.finished)) =
          [(.completed, 0, true)] ∧
        t'.journal.rows.map (fun r => (r.status, r.retries, r.finished)) =
          [(.failed, 1, false)]) ∧
      (∃ past acts t t', Runs (fun _ : Party => 1) Any start past t ∧
        Runs (fun _ : Party => 1) Any t acts t' ∧
        t.journal.rows.map (fun r => (r.status, r.retries, r.finished)) =
          [(.deadLetter, 1, true)] ∧
        t'.journal.rows.map (fun r => (r.status, r.retries, r.finished)) =
          [(.deadLetter, 2, true)]) ∧
      ¬Endures (fun | .application => 2 | .commandLine => 1 : Party → Int) Apart := by
  have hparties : Party.application ≠ .commandLine := by decide
  refine ⟨?_, ?_, ?_⟩
  · obtain ⟨past, t, t', hpast, hruns, hj, hj'⟩ := runs_twice (M := fun _ => 3) hparties
      none (some "boom") (.inl rfl) (.inr (by decide))
    exact ⟨past, _, t, t', hpast, hruns, by rw [hj]; rfl, by rw [hj']; rfl⟩
  · obtain ⟨past, t, t', hpast, hruns, hj, hj'⟩ := runs_twice (M := fun _ => 1) hparties
      (some "boom") (some "boom") (.inr (by decide)) (.inr (by decide))
    exact ⟨past, _, t, t', hpast, hruns, by rw [hj]; rfl, by rw [hj']; rfl⟩
  · exact not_endures_apart (i := .commandLine) (k := .application) (by decide) (by decide)
      (by decide)

end Voicemail
