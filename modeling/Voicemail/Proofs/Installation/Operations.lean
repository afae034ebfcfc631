import Voicemail.Installation
import Voicemail.Proofs.Client.Run
import Voicemail.Proofs.Installation.Reopen
import Voicemail.Proofs.Outbox.Deliveries

/-!
# Operations on events

Everything that can happen to the events of an installation (`Operation`): events are dispatched and
drained, the worker delivers, plugins come, the worker is stopped, the client is closed and its
store opened again. Every operation leads from one ready installation to another in the steps of a
ledger (`Installation.Ready.run`). A client that was closed keeps its journal, because its store is
written to its place and read back from there.
-/

namespace Voicemail

/-! ## What can happen -/

namespace Client

/-- The worker makes its next delivery. -/
def work : ClientM Unit :=
  onOutbox "work" fun context o => ((o.work context).1, (o.work context).2, .ok ())

/-- What the outbox of a client gives, if the client has one. -/
def onBus {α : Type} (f : LogContext → Outbox → List α) (c : Client) : List α :=
  match c.bus with
  | none => []
  | some bus => f c.context ⟨c.journal, bus⟩

/-- Without a bus there is nothing to close. -/
theorem close_none {c : Client} (h : c.bus = none) : Client.close c = (.ok (), c) := by
  simp only [Client.close, bind_ok (get_apply c), h]
  rfl

/-- With a bus, closing is stopping the worker and giving the bus up. -/
theorem close_some {c : Client} {bus : Bus} (h : c.bus = some bus) :
    Client.close c = (.ok (), { (shutdown c).2 with bus := none }) := by
  have hs : shutdown c = (.ok (), (shutdown c).2) := by
    simp only [shutdown, onOutbox_some h]
  simp only [Client.close, bind_ok (get_apply c), h, Option.isSome_some, if_true, bind_ok hs]
  rfl

/-- A client that is closed has no bus. -/
theorem close_bus (c : Client) : (Client.close c).2.bus = none := by
  cases h : c.bus with
  | none => rw [close_none h]; exact h
  | some bus => rw [close_some h]

/-- Closing keeps the settings. -/
theorem close_settings (c : Client) : (Client.close c).2.settings = c.settings := by
  cases h : c.bus with
  | none => rw [close_none h]
  | some bus =>
    rw [close_some h]
    simp only [shutdown, onOutbox_some h]
    rfl

/-- A new bus has nothing waiting and the plugins that were found, counts retries as the settings
say, and reaches a journal that is kept in a file. Where no bus can be made there is none. -/
theorem startBus_snd (installed : List EntryPoint) (synchronous : Bool) (c : Client) :
    let d := Registry.discover installed { front := c.front }
    ∃ bus, (startBus installed synchronous c).2 =
        { c.noting ((d.records c.context).map .record) with bus } ∧
      (bus = c.bus ∨ ∃ b, bus = some b ∧ b.maxRetries = c.settings.events.maxRetries ∧
        b.waiting.getD [] = [] ∧ b.journalInReach = !c.inMemory ∧ b.registry = d.registry) := by
  intro d
  unfold startBus
  rw [bind_ok (get_apply c), bind_ok (note_apply ((d.records c.context).map .record) c)]
  cases hd : d.stopped with
  | some f => exact ⟨c.bus, rfl, .inl rfl⟩
  | none =>
    dsimp only [Bus.start]
    split
    · exact ⟨_, rfl, .inr ⟨_, rfl, rfl, rfl, rfl, rfl⟩⟩
    · split
      · exact ⟨c.bus, rfl, .inl rfl⟩
      · exact ⟨_, rfl, .inr ⟨_, rfl, rfl, rfl, rfl, rfl⟩⟩

/-- Nothing is made of a bus of which nothing is asked. -/
theorem onBus_nil {α : Type} (c : Client) : c.onBus (fun _ _ => ([] : List α)) = [] := by
  unfold onBus
  cases c.bus <;> rfl

end Client

/-- An operation on the events of an installation. -/
inductive Operation where
  | dispatch (hook : String) (payload : Json) (account : Option String)
  | drain
  | shutdown
  | work
  | register (p : Plugin) (name : String)
  | discover (installed : List EntryPoint)
  | close
  /-- The client is closed, and its store opened again on a bus with installed plugins. -/
  | reopen (synchronous : Bool) (installed : List EntryPoint)

/-- Settings with which events are delivered at once, or by a worker. -/
def Settings.delivering (synchronous : Bool) (s : Settings) : Settings :=
  { s with sync := synchronous, events := { s.events with sync := synchronous } }

/-- How events are delivered says nothing of where the store is. -/
theorem Settings.databasePath_delivering (synchronous : Bool) (s : Settings) :
    (s.delivering synchronous).databasePath = s.databasePath := rfl

/-- Lets the client of an installation do something. -/
def Installation.act {α : Type} (m : ClientM α) (i : Installation) : Installation :=
  { i with client := (m i.client).2 }

namespace Operation

/-- An installation after an operation. -/
def run : Operation → Installation → Installation
  | .dispatch hook payload account => .act (Client.dispatch hook payload account)
  | .drain => .act Client.drain
  | .shutdown => .act Client.shutdown
  | .work => .act Client.work
  | .register p name => .act (Client.register p name)
  | .discover installed => .act (Client.discover installed)
  | .close => .close
  | .reopen synchronous installed => fun i =>
    (i.close.openStore (i.client.settings.delivering synchronous) true installed).2

/-- The deliveries that an operation makes. -/
def made : Operation → Client → List Delivered
  | .dispatch hook payload account => Client.onBus fun context o =>
    o.dispatchedAtOnce context hook payload account
  | .drain => Client.onBus fun context o => o.drained context
  | .work => Client.onBus fun _ o => o.worked
  | .register _ _ | .discover _ => fun _ => []
  | .shutdown | .close | .reopen _ _ => Client.onBus fun context o =>
    Outbox.flushed context o.pending o

/-- The events that an operation dispatches. -/
def dispatched : Operation → Client → List JournaledEvent
  | .dispatch hook payload account => Client.onBus fun _ _ => [⟨hook, payload.text, account⟩]
  | _ => fun _ => []

end Operation

namespace Installation

/-! ## Ready installations -/

/-- What an installation is between two operations: retries are counted up to `M`, the store is kept
in a file, and a bus that is there is ready. -/
structure Ready (M : Int) (i : Installation) : Prop where
  retries : i.client.settings.events.maxRetries = M
  directory : i.directory.anchor ≠ .relative
  place : i.place = .ofPath i.directory i.client.settings.databasePath
  kept : i.place ≠ .memory
  bus : ∀ bus, i.client.bus = some bus → Outbox.Ready M ⟨i.client.journal, bus⟩

/-- An installation leads to another by deliveries and dispatches. -/
def Leads (M : Int) (i : Installation) (made : List Delivered) (dispatched : List JournaledEvent)
    (i' : Installation) : Prop :=
  ∀ earlier past, Ledger.Lawful M ⟨i.client.journal, earlier, past⟩ →
    Ledger.Steps M ⟨i.client.journal, earlier, past⟩
      ⟨i'.client.journal, earlier ++ made, past ++ dispatched⟩ ∧ i'.Ready M

variable {M : Int} {i : Installation} {α : Type}

/-- An installation that is ready with the same journal is led to by nothing. -/
theorem Leads.refl {i' : Installation} (h : i'.Ready M)
    (hj : i'.client.journal = i.client.journal) : Leads M i [] [] i' := by
  intro earlier past _
  rw [List.append_nil, List.append_nil, hj]
  exact ⟨.refl, h⟩

/-- What happens to the journal after it has not changed happens to it at once. -/
theorem Leads.congr {i' i'' : Installation} {made : List Delivered}
    {dispatched : List JournaledEvent} (h : Leads M i made dispatched i')
    (hj : i''.client.journal = i'.client.journal) (hready : i'.Ready M → i''.Ready M) :
    Leads M i made dispatched i'' := by
  intro earlier past hl
  obtain ⟨hs, h'⟩ := h earlier past hl
  rw [hj]
  exact ⟨hs, hready h'⟩

/-- Where work on an outbox leads a ready outbox, it leads a ready installation. -/
theorem Ready.onOutbox (h : i.Ready M) (member : String)
    (f : LogContext → Outbox → Outbox × Transcript × Except Failure α)
    (made : LogContext → Outbox → List Delivered)
    (dispatched : LogContext → Outbox → List JournaledEvent)
    (hf : ∀ context o, o.Ready M → Outbox.Leads M o (made context o) (dispatched context o)
      (f context o).1) :
    Leads M i (i.client.onBus made) (i.client.onBus dispatched)
      (i.act (Client.onOutbox member f)) := by
  cases hb : i.client.bus with
  | none =>
    simp only [Client.onBus, hb, act, Client.onOutbox_none hb]
    exact .refl h rfl
  | some bus =>
    intro earlier past hl
    obtain ⟨hs, hready⟩ :=
      hf i.client.context ⟨i.client.journal, bus⟩ (h.bus bus hb) earlier past hl
    simp only [Client.onBus, hb, act, Client.onOutbox_some hb]
    refine ⟨hs, h.retries, h.directory, h.place, h.kept, fun bus' hb' => ?_⟩
    obtain rfl := Option.some.inj hb'
    exact hready

/-- Work that leads a ready outbox without a delivery leads a ready installation without one. -/
theorem Ready.onOutbox_nil (h : i.Ready M) (member : String)
    (f : LogContext → Outbox → Outbox × Transcript × Except Failure α)
    (hf : ∀ context o, o.Ready M → Outbox.Leads M o [] [] (f context o).1) :
    Leads M i [] [] (i.act (Client.onOutbox member f)) := by
  have := h.onOutbox member f (fun _ _ => []) (fun _ _ => []) hf
  rwa [Client.onBus_nil, Client.onBus_nil] at this

/-- Registering a plugin makes no delivery. -/
theorem Ready.register (h : i.Ready M) (p : Plugin) (name : String) :
    Leads M i [] [] (i.act (Client.register p name)) := by
  refine h.onOutbox_nil _ _ fun context o ho => ?_
  cases o.bus.registry.register p name with
  | ok r => exact ho.withRegistry r
  | error => exact ho.withRegistry o.bus.registry

/-- Loading installed plugins makes no delivery. -/
theorem Ready.discover (h : i.Ready M) (installed : List EntryPoint) :
    Leads M i [] [] (i.act (Client.discover installed)) :=
  h.onOutbox_nil _ _ fun _ _ ho => ho.withRegistry _

/-- Stopping the worker delivers what waits. -/
theorem Ready.shutdown (hM : Journal.fits M) (h : i.Ready M) :
    Leads M i (i.client.onBus fun context o => Outbox.flushed context o.pending o) []
      (i.act Client.shutdown) := by
  have := h.onOutbox "shutdown" (fun context o =>
      ((o.shutdown context).1, (o.shutdown context).2, .ok ()))
    _ (fun _ _ => []) fun context o ho => ho.shutdown hM context
  rw [Client.onBus_nil] at this
  exact this

/-! ## Closing and opening -/

/-- A closed client in its installation: its store is kept at its place. -/
theorem close_eq (i : Installation) :
    i.close = { i with
      client := (Client.close i.client).2
      tree := i.tree.keep
        ⟨(Client.close i.client).2.preferences, (Client.close i.client).2.journal⟩ i.place } := rfl

/-- A client that is closed has delivered what waited and has no bus. -/
theorem Ready.close (hM : Journal.fits M) (h : i.Ready M) :
    Leads M i (i.client.onBus fun context o => Outbox.flushed context o.pending o) [] i.close := by
  cases hb : i.client.bus with
  | none =>
    simp only [Client.onBus, hb, close_eq, Client.close_none hb]
    exact .refl ⟨h.retries, h.directory, h.place, h.kept, h.bus⟩ rfl
  | some bus =>
    have hlead := h.shutdown hM
    rw [close_eq, Client.close_some hb]
    refine hlead.congr rfl fun hready => ?_
    exact ⟨hready.retries, hready.directory, hready.place, hready.kept, fun _ hb' => by cases hb'⟩

/-- What opening its store again makes of an installation: the journal is the same, and there is a
new bus, unless none can be made. -/
structure Reopened (installed : List EntryPoint) (i i' : Installation) : Prop where
  retries : i'.client.settings.events.maxRetries = i.client.settings.events.maxRetries
  path : i'.client.settings.databasePath = i.client.settings.databasePath
  directory : i'.directory = i.directory
  place : i'.place = i.place
  journal : i'.client.journal = i.client.journal
  bus : i'.client.bus = i.client.bus ∨ ∃ b, i'.client.bus = some b ∧
    b.maxRetries = i.client.settings.events.maxRetries ∧ b.waiting.getD [] = [] ∧
    b.journalInReach = true ∧
    b.registry = (Registry.discover installed { front := i.client.front }).registry

/-- Opening a store among files in which the journal is kept gives that journal back, also where
nothing can be opened. -/
theorem reopened (hd : i.directory.anchor ≠ .relative)
    (hplace : i.place = .ofPath i.directory i.client.settings.databasePath)
    (hmem : i.place ≠ .memory)
    (hkept : ∀ p, i.place = .file p → (i.tree.storeIn p.names).journal = i.client.journal)
    (synchronous : Bool) (installed : List EntryPoint) :
    Reopened installed i
      (i.openStore (i.client.settings.delivering synchronous) true installed).2 := by
  cases hp : i.place with
  | memory => exact absurd hp hmem
  | file p =>
    have hfile := hplace.symm.trans hp
    match ho : i.tree.openStore i.directory i.client.settings.databasePath with
    | (tree, .error e) =>
      have hopen : i.openStore (i.client.settings.delivering synchronous) true installed =
          (.error e, { i with tree }) := by
        simp only [Installation.openStore, Settings.databasePath_delivering, ho]
      rw [hopen]
      exact ⟨rfl, rfl, rfl, rfl, rfl, .inl rfl⟩
    | (tree, .ok o) =>
      obtain ⟨hop, hos⟩ := FileTree.openStore_ok
        (Store.Place.isResolved_of_ofPath hd hfile) hfile ho
      let c : Client := { i.client with
        settings := i.client.settings.delivering synchronous
        preferences := o.store.preferences, journal := o.store.journal
        inMemory := o.place = .memory }
      have hopen : (i.openStore (i.client.settings.delivering synchronous) true installed).2 =
          { i with
            client := (Client.startBus installed
              (i.client.settings.delivering synchronous).dispatchSync c).2
            tree, place := o.place } := by
        simp only [Installation.openStore, Settings.databasePath_delivering, ho]
        rfl
      have hm : c.inMemory = false := by simp [c, hop]
      obtain ⟨bus, hstart, hb⟩ := Client.startBus_snd installed
        (i.client.settings.delivering synchronous).dispatchSync c
      rw [hopen, hstart]
      refine ⟨rfl, rfl, rfl, hop.trans hp.symm, ?_, ?_⟩
      · show o.store.journal = i.client.journal
        rw [hos, hkept p hp]
      · rwa [hm] at hb

/-- Opening the store of a ready installation again makes no delivery. -/
theorem Ready.openStore (h : i.Ready M) (hbus : i.client.bus = none)
    (hkept : ∀ p, i.place = .file p → (i.tree.storeIn p.names).journal = i.client.journal)
    (synchronous : Bool) (installed : List EntryPoint) :
    Leads M i [] []
      (i.openStore (i.client.settings.delivering synchronous) true installed).2 := by
  have hre := reopened h.directory h.place h.kept hkept synchronous installed
  generalize (i.openStore (i.client.settings.delivering synchronous) true installed).2 = i' at hre ⊢
  refine .refl ⟨hre.retries.trans h.retries, ?_, ?_, ?_, fun b hb => ?_⟩ hre.journal
  · rw [hre.directory]
    exact h.directory
  · rw [hre.place, hre.directory, hre.path]
    exact h.place
  · rw [hre.place]
    exact h.kept
  · rcases hre.bus with hsame | ⟨b', hb', hretries, hwaiting, hreach, -⟩
    · rw [hsame, hbus] at hb
      cases hb
    · obtain rfl : b' = b := Option.some.inj (hb'.symm.trans hb)
      refine ⟨hretries.trans h.retries, hreach, ?_⟩
      simp only [Outbox.pending, hwaiting]
      exact .nil _

/-- The store of a closed installation holds its journal. -/
theorem storeIn_close (i : Installation) {p : Path} (hp : i.close.place = .file p) :
    (i.close.tree.storeIn p.names).journal = i.close.client.journal := by
  rw [close_eq] at hp ⊢
  simp only at hp ⊢
  rw [hp, FileTree.storeIn_keep]

/-- A client that is closed and opened again has its journal. -/
theorem Ready.reopen (hM : Journal.fits M) (h : i.Ready M) (synchronous : Bool)
    (installed : List EntryPoint) :
    Leads M i (i.client.onBus fun context o => Outbox.flushed context o.pending o) []
      (i.close.openStore (i.client.settings.delivering synchronous) true installed).2 := by
  intro earlier past hl
  obtain ⟨hs, hclosed⟩ := h.close hM earlier past hl
  have hset : i.client.settings = i.close.client.settings := by
    rw [close_eq]
    exact (Client.close_settings i.client).symm
  obtain ⟨hs', hready⟩ := hclosed.openStore (by rw [close_eq]; exact Client.close_bus i.client)
    (fun _ => storeIn_close i) synchronous installed _ _ (Ledger.Steps.lawful hs hl)
  simp only [List.append_nil] at hs hs' ⊢
  rw [hset]
  exact ⟨hs.trans hs', hready⟩

/-! ## Every operation -/

/-- An operation leads a ready installation to a ready one. -/
theorem Ready.run (hM : Journal.fits M) (h : i.Ready M) (op : Operation) :
    Leads M i (op.made i.client) (op.dispatched i.client) (op.run i) := by
  cases op with
  | dispatch hook payload account =>
    exact h.onOutbox "dispatch" _ _ _ fun context o ho =>
      ho.dispatch hM context hook payload account
  | drain =>
    have := h.onOutbox "drain" Outbox.drain _ (fun _ _ => []) fun context o ho =>
      ho.drain hM context
    rwa [Client.onBus_nil] at this
  | shutdown => exact h.shutdown hM
  | work =>
    have := h.onOutbox "work" (fun context o => ((o.work context).1, (o.work context).2, .ok ()))
      _ (fun _ _ => []) fun context o ho => ho.work hM context
    rwa [Client.onBus_nil] at this
  | register p name => exact h.register p name
  | discover installed => exact h.discover installed
  | close => exact h.close hM
  | reopen synchronous installed => exact h.reopen hM synchronous installed

end Installation

end Voicemail
