import Voicemail.Proofs.Installation.Lifecycle
import Voicemail.Proofs.Outbox.Trials

/-!
# The trials of an installation

The trials that operations on an installation make, one operation after another
(`Installation.trials`). They are the deliveries of its history (`Site.made_run`), and no plugin is
called in anything but a trial (`Installation.after_hooks`).
-/

namespace Voicemail

namespace Operation

/-- The trials that an operation makes. -/
def trials : Operation → Client → List Trial
  | .dispatch hook payload account => Client.onBus fun context o =>
    o.dispatchTrials context hook payload account
  | .drain => Client.onBus fun context o => o.drainTrials context
  | .work => Client.onBus fun _ o => o.workTrials
  | .register _ _ | .discover _ => fun _ => []
  | .shutdown | .close | .reopen _ _ => Client.onBus fun _ o => Outbox.flushTrials o.pending o

/-- The trials of an operation are its deliveries. -/
theorem made_eq_map (op : Operation) (c : Client) :
    op.made c = (op.trials c).map Trial.delivered := by
  cases hbus : c.bus with
  | none => cases op <;> simp [made, trials, Client.onBus, hbus]
  | some bus =>
    cases op with
    | dispatch hook payload account =>
      simp only [made, trials, Client.onBus, hbus]
      exact Outbox.dispatchedAtOnce_eq_map ..
    | drain =>
      simp only [made, trials, Client.onBus, hbus]
      exact Outbox.drained_eq_map ..
    | work =>
      simp only [made, trials, Client.onBus, hbus]
      exact Outbox.worked_eq_map _
    | shutdown | close | reopen =>
      simp only [made, trials, Client.onBus, hbus]
      exact Outbox.flushed_eq_map ..
    | register | discover => rfl

end Operation

/-! ## Plugin calls of operations -/

namespace Client

/-- The plugin calls of work on an outbox are those of its trials. -/
theorem onOutbox_hooks {α : Type} (member : String)
    (f : LogContext → Outbox → Outbox × Transcript × Except Failure α)
    (trials : LogContext → Outbox → List Trial)
    (h : ∀ context o, (f context o).2.1.hooks = (trials context o).flatMap Trial.hooks)
    (c : Client) :
    (onOutbox member f c).2.transcript.hooks =
      c.transcript.hooks ++ (c.onBus trials).flatMap Trial.hooks := by
  cases hb : c.bus with
  | none => simp [onOutbox_none hb, onBus, hb]
  | some bus =>
    rw [onOutbox_some hb, onBus, hb, ← h]
    exact Transcript.hooks_append ..

/-- Work on an outbox without a trial calls no plugin. -/
theorem onOutbox_hooks_nil {α : Type} (member : String)
    (f : LogContext → Outbox → Outbox × Transcript × Except Failure α)
    (h : ∀ context o, (f context o).2.1.hooks = []) (c : Client) :
    (onOutbox member f c).2.transcript.hooks = c.transcript.hooks ++ [] := by
  have := onOutbox_hooks member f (fun _ _ => []) h c
  rwa [onBus_nil] at this

/-- Stopping the worker makes the trials of what waits. -/
theorem shutdown_hooks (c : Client) :
    (shutdown c).2.transcript.hooks =
      c.transcript.hooks ++
        (c.onBus fun _ o => Outbox.flushTrials o.pending o).flatMap Trial.hooks :=
  onOutbox_hooks "shutdown" (fun context o => ((o.shutdown context).1, (o.shutdown context).2,
    .ok ())) (fun _ o => Outbox.flushTrials o.pending o) Outbox.flush_hooks c

/-- Closing calls the plugins that stopping the worker calls. -/
theorem close_hooks (c : Client) :
    (close c).2.transcript.hooks =
      c.transcript.hooks ++
        (c.onBus fun _ o => Outbox.flushTrials o.pending o).flatMap Trial.hooks := by
  cases hb : c.bus with
  | none => simp [close_none hb, onBus, hb]
  | some bus =>
    rw [close_some hb]
    exact shutdown_hooks c

/-- Records are no plugin calls. -/
theorem hooks_records (rs : List LogRecord) : Transcript.hooks (rs.map .record) = [] := by
  induction rs with
  | nil => rfl
  | cons r rest ih => exact ih

/-- Starting a bus calls no plugin. -/
theorem startBus_hooks (installed : List EntryPoint) (synchronous : Bool) (c : Client) :
    (startBus installed synchronous c).2.transcript.hooks = c.transcript.hooks := by
  obtain ⟨bus, hstart, -⟩ := startBus_snd installed synchronous c
  rw [hstart]
  exact (Transcript.hooks_append ..).trans
    ((congrArg _ (hooks_records _)).trans (List.append_nil _))

end Client

/-- Opening a store calls no plugin. -/
theorem Installation.openStore_hooks (i : Installation) (settings : Settings)
    (installed : List EntryPoint) :
    (i.openStore settings true installed).2.client.transcript.hooks =
      i.client.transcript.hooks := by
  unfold Installation.openStore
  split
  · rfl
  · exact Client.startBus_hooks ..

/-- The plugin calls of an operation are those of its trials. -/
theorem Operation.run_hooks (op : Operation) (i : Installation) :
    (op.run i).client.transcript.hooks =
      i.client.transcript.hooks ++ (op.trials i.client).flatMap Trial.hooks := by
  cases op with
  | dispatch hook payload account =>
    exact Client.onOutbox_hooks "dispatch"
      (fun context o => o.dispatch context hook payload account)
      (fun context o => o.dispatchTrials context hook payload account)
      (fun context o => o.dispatch_hooks context hook payload account) i.client
  | drain =>
    exact Client.onOutbox_hooks "drain" Outbox.drain (fun context o => o.drainTrials context)
      Outbox.drain_hooks i.client
  | shutdown => exact Client.shutdown_hooks i.client
  | work =>
    exact Client.onOutbox_hooks "work"
      (fun context o => ((o.work context).1, (o.work context).2, .ok ()))
      (fun _ o => o.workTrials) Outbox.work_hooks i.client
  | register p name =>
    refine Client.onOutbox_hooks_nil "plugin_manager" _ (fun _ o => ?_) i.client
    cases o.bus.registry.register p name <;> rfl
  | discover installed =>
    exact Client.onOutbox_hooks_nil "plugin_manager" _ (fun _ _ => Client.hooks_records _) i.client
  | close => exact Client.close_hooks i.client
  | reopen synchronous installed =>
    exact (Installation.openStore_hooks ..).trans (Client.close_hooks i.client)

/-! ## One operation after another -/

namespace Installation

/-- An installation after some operations. -/
def after (ops : List Operation) (i : Installation) : Installation :=
  ops.foldl (fun i op => op.run i) i

/-- The trials that some operations make. -/
def trials : List Operation → Installation → List Trial
  | [], _ => []
  | op :: ops, i => op.trials i.client ++ trials ops (op.run i)

/-- The plugin calls of operations are those of their trials. -/
theorem after_hooks (ops : List Operation) (i : Installation) :
    (i.after ops).client.transcript.hooks =
      i.client.transcript.hooks ++ (i.trials ops).flatMap Trial.hooks := by
  induction ops generalizing i with
  | nil => exact (List.append_nil _).symm
  | cons op ops ih =>
    have hrest := ih (i := op.run i)
    rw [op.run_hooks, List.append_assoc, ← List.flatMap_append] at hrest
    exact hrest

end Installation

/-- The history of a site has the trials of its installation. -/
theorem Site.made_run (ops : List Operation) (s : Site) :
    (s.run ops).made = s.made ++ (s.installation.trials ops).map Trial.delivered ∧
      (s.run ops).installation = s.installation.after ops := by
  induction ops generalizing s with
  | nil => exact ⟨(List.append_nil _).symm, rfl⟩
  | cons op ops ih =>
    obtain ⟨hmade, hinstallation⟩ := ih (s := s.step op)
    refine ⟨?_, hinstallation⟩
    rw [Installation.trials, List.map_append, ← List.append_assoc, ← op.made_eq_map]
    exact hmade

end Voicemail
