import Voicemail.Proofs.Installation.Operations

/-!
# The life of events

A `Site` is an installation with the history of its events: which were dispatched and which
deliveries were made. Whatever operations follow each other, every row of the journal is the account
of the deliveries of its event, the rows are the dispatched events in their order, and of two
moments of a run the later one has every row of the earlier (`Site.accounts_iff`). This needs a
greatest number of retries that the journal can compare with, and a journal that is kept in a file:
beyond that a delivery can fail and leave no trace in its row.
-/

namespace Voicemail

/-- An installation with the history of its events. -/
structure Site where
  installation : Installation
  /-- The deliveries that were made, oldest first. -/
  made : List Delivered
  /-- The events that were dispatched, oldest first. -/
  dispatched : List JournaledEvent

/-- An installation before anything was dispatched: the journal is empty and nothing waits. It is
durable if its store is kept in a file, and only then its worker reaches the journal. -/
structure Installation.IsFresh (M : Int) (durable : Bool) (i : Installation) : Prop where
  retries : i.client.settings.events.maxRetries = M
  directory : i.directory.anchor ≠ .relative
  place : i.place = .ofPath i.directory i.client.settings.databasePath
  inMemory : i.place = .memory ↔ durable = false
  journal : i.client.journal = .empty
  bus : ∀ bus, i.client.bus = some bus →
    bus.maxRetries = M ∧ bus.waiting.getD [] = [] ∧ bus.journalInReach = durable

namespace Site

/-- An installation without a history. -/
def start (i : Installation) : Site := ⟨i, [], []⟩

/-- A site after an operation. -/
def step (s : Site) (op : Operation) : Site where
  installation := op.run s.installation
  made := s.made ++ op.made s.installation.client
  dispatched := s.dispatched ++ op.dispatched s.installation.client

/-- A site after some operations. -/
def run (ops : List Operation) (s : Site) : Site := ops.foldl step s

/-- The journal of a site with its history. -/
def ledger (s : Site) : Ledger := ⟨s.installation.client.journal, s.made, s.dispatched⟩

/-- What the journal of a site has to say: every row is the account of its deliveries, the ids rise,
and the rows are the dispatched events in their order. -/
structure Accounts (M : Int) (s : Site) : Prop where
  rows : ∀ r ∈ s.ledger.journal.rows, r.IsAccountOf M (Ledger.outcomes s.made r.id)
  ids : (s.ledger.journal.rows.map (·.id)).Pairwise (· < ·)
  events : s.ledger.journal.rows.map Row.journaled = s.dispatched

variable {M : Int} {s : Site}

/-- Operations after others are run where those have led. -/
theorem run_append (earlier later : List Operation) (s : Site) :
    s.run (earlier ++ later) = (s.run earlier).run later := List.foldl_append

/-- An operation on a ready site is a sequence of steps of its ledger. -/
theorem step_steps (hM : Journal.fits M) (h : s.installation.Ready M)
    (hl : s.ledger.Lawful M) (op : Operation) :
    Ledger.Steps M s.ledger (s.step op).ledger ∧ (s.step op).installation.Ready M :=
  h.run hM op s.made s.dispatched hl

/-- Operations on a ready site are a sequence of steps of its ledger. -/
theorem run_steps (hM : Journal.fits M) (h : s.installation.Ready M)
    (hl : s.ledger.Lawful M) (ops : List Operation) :
    Ledger.Steps M s.ledger (s.run ops).ledger ∧ (s.run ops).installation.Ready M := by
  induction ops generalizing s with
  | nil => exact ⟨.refl, h⟩
  | cons op ops ih =>
    obtain ⟨hs, hready⟩ := step_steps hM h hl op
    obtain ⟨hs', hready'⟩ := ih hready (hs.lawful hl)
    exact ⟨hs.trans hs', hready'⟩

/-- The journal of a lawful site says what it has to say. -/
theorem accounts_of_lawful (h : s.ledger.Lawful M) : s.Accounts M where
  rows := fun r hr => (h.lived r hr).isAccountOf
  ids := h.pairwise
  events := h.events

/-- A fresh installation whose store is kept in a file is ready, and its ledger is lawful. -/
theorem start_ready {i : Installation} (h : i.IsFresh M true) :
    i.Ready M ∧ (start i).ledger.Lawful M := by
  refine ⟨⟨h.retries, h.directory, h.place, fun hm => ?_, fun bus hb => ?_⟩, ?_⟩
  · cases h.inMemory.1 hm
  · obtain ⟨hretries, hwaiting, hreach⟩ := h.bus bus hb
    refine ⟨hretries, hreach, ?_⟩
    simp only [Outbox.pending, hwaiting]
    exact .nil _
  · simp only [ledger, start, h.journal]
    exact .empty M

/-! ## Failures that leave no trace -/

end Site

/-- An installation at the root directory with a worker and no plugins. Its store is kept in a file
or in memory. -/
def Installation.atRoot (M : Int) (durable : Bool) : Installation :=
  let settings : Settings :=
    { root := ⟨.root, []⟩, configPath := none
      store := { path := if durable then none else some Store.Place.memoryName }
      events := { maxRetries := M } }
  { client := { Client.new settings none [] with bus := some ⟨.empty, M, some [], durable⟩ }
    directory := ⟨.root, []⟩
    tree := ⟨[], []⟩
    place := .ofPath ⟨.root, []⟩ settings.databasePath }

/-- An installation at the root is fresh, with its journal in a file or in memory. -/
theorem Installation.atRoot_isFresh (M : Int) (durable : Bool) :
    (Installation.atRoot M durable).IsFresh M durable where
  retries := rfl
  directory := by simp [Installation.atRoot]
  place := by simp only [Installation.atRoot, Client.new]
  inMemory := by
    have hplace : (Installation.atRoot M durable).place = .ofPath ⟨.root, []⟩
        (Installation.atRoot M durable).client.settings.databasePath := by
      simp only [Installation.atRoot, Client.new]
    rw [hplace]
    cases durable with
    | true =>
      have hpath : (Installation.atRoot M true).client.settings.databasePath =
          ((⟨.root, []⟩ : Path).join ".vvmprov").join "vvmprov.db" := rfl
      rw [hpath]
      decide
    | false =>
      have hpath : (Installation.atRoot M false).client.settings.databasePath =
          .ofString Store.Place.memoryName := rfl
      rw [hpath]
      decide
  journal := rfl
  bus := by
    intro bus hb
    cases hb
    exact ⟨rfl, rfl, rfl⟩

/-- An event that no plugin can be called with: its payload names no arguments. -/
def Operation.malformed : Operation := .dispatch Hook.vvmEvent.name .null none

namespace Site

/-- Where the journal cannot compare with the greatest number of retries, or is out of the worker's
reach, a delivery fails and its row stays as it was written. -/
theorem run_malformed (M : Int) (durable : Bool) (h : ¬(Journal.fits M = true ∧ durable = true)) :
    ((start (.atRoot M durable)).run [.malformed, .work]).ledger =
      ⟨Journal.empty.append Hook.vvmEvent.name Json.null.text none, [⟨1, true⟩],
        [⟨Hook.vvmEvent.name, Json.null.text, none⟩]⟩ := by
  have hdeliver : ∀ o : Outbox, o.bus.maxRetries = M → o.bus.journalInReach = durable →
      (Outbox.flushAll .empty [⟨1, Hook.vvmEvent.name, .null⟩] o).1.journal = o.journal := by
    intro o hretries hreach
    have hcall : o.bus.registry.callNamed .empty Hook.vvmEvent.name .null =
        (o.bus.registry, [], .error (.misuse (.notMapping (Relay.shown Hook.vvmEvent.name)
          Json.null.typeName))) := rfl
    simp only [Outbox.flushAll, Outbox.deliver, hcall, Outbox.withRegistry, hretries, hreach]
    by_cases hM : Journal.fits M = true
    · have hd : durable = false := by simpa [hM] using h
      simp only [hM, hd, if_true]
      rfl
    · simp only [hM]
      rfl
  have hjournal : ((start (.atRoot M durable)).run [.malformed, .work]).ledger.journal =
      Journal.empty.append Hook.vvmEvent.name Json.null.text none := hdeliver ⟨_, _⟩ rfl rfl
  have hmade : ((start (.atRoot M durable)).run [.malformed, .work]).ledger.made = [⟨1, true⟩] :=
    rfl
  rw [← hjournal, ← hmade]
  rfl

/-- The journal accounts for everything in every run of every fresh installation exactly if it can
compare with the greatest number of retries and is kept in a file. -/
theorem accounts_iff (M : Int) (durable : Bool) :
    (∀ i : Installation, i.IsFresh M durable → ∀ earlier later : List Operation,
      ((start i).run earlier).Accounts M ∧
        ((start i).run earlier).ledger.Grows ((start i).run (earlier ++ later)).ledger) ↔
      Journal.fits M = true ∧ durable = true := by
  constructor
  · intro h
    by_contra hnot
    obtain ⟨haccounts, -⟩ := h _ (Installation.atRoot_isFresh M durable) [.malformed, .work] []
    have hrun := run_malformed M durable hnot
    have hrows := haccounts.rows
    have hmade : ((start (.atRoot M durable)).run [.malformed, .work]).made = [⟨1, true⟩] :=
      congrArg Ledger.made hrun
    rw [hrun, hmade] at hrows
    have := (hrows _ (.head _)).retries
    cases this
  · rintro ⟨hM, rfl⟩ i hi earlier later
    obtain ⟨hready, hlawful⟩ := start_ready hi
    obtain ⟨hs, hready⟩ := run_steps hM hready hlawful earlier
    have hlawful := hs.lawful hlawful
    obtain ⟨hs', -⟩ := run_steps hM hready hlawful later
    rw [run_append]
    exact ⟨accounts_of_lawful hlawful, hs'.grows hlawful⟩

/-- The arguments of an event, as plugins take them. -/
def someEvent : Json :=
  .obj (Hook.vvmEvent.argumentNames.map fun name => (name, .str ""))

/-- A plugin that fails at every call. -/
def failing : Plugin where
  label := "p"
  className := "TracePlugin"
  hooks := Hook.all
  respond := fun _ _ _ => some ⟨.runtime, "boom"⟩
  calls := 0

/-- With `2 ^ 63` retries the plugin's failure leaves the row of the event pending. -/
theorem not_accounts_of_failing :
    ¬((start (.atRoot 9223372036854775808 true)).run
      [.shutdown, .register failing "", .dispatch Hook.vvmEvent.name someEvent none]).Accounts
        9223372036854775808 := by
  intro h
  have := (h.rows ⟨1, Hook.vvmEvent.name, someEvent.text, none, .pending, none, 0, false⟩
    (.head _)).retries
  cases this

end Site

end Voicemail
