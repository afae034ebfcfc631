import Voicemail.Proofs.Client.Oblivious
import Voicemail.Proofs.Provisioning.Course
import Voicemail.Proofs.Provisioning.Moves

/-!
# What an attempt journals

The rows that an attempt appends to the journal tell the same as its reports, in the same order:
each move of the client appends a row for each report and nothing else (`Client.Move.tells`), so
carrying out an action does (`Attempt.carryOut_tells`). An outcome is dispatched after everything
else, and a failure is not, so the row of the outcome is the last one or missing. Which events there
are depends on the action (`Attempt.Suits`): a setup tells of its PIN at most once, and before it
tells that it has failed. `Attempt.provision_journals` puts this together.
-/

namespace Voicemail

open Client

/-- Kinds of events have different names. -/
theorem EventKind.name_injective : Function.Injective EventKind.name := by
  intro e e' h
  cases e <;> cases e' <;> first | rfl | exact absurd h (by decide)

/-! ## Rows and reports -/

/-- The event that a report for an account appends to the journal: the account, the protocol, the
event, and what the protocol says about it. -/
def EventKind.journaled (protocol : Protocol) (account : String) (e : EventKind) :
    JournaledEvent where
  hook := "vvm_event"
  payload := (Json.obj [
    ("account_id", .str account),
    ("protocol", .str protocol.name),
    ("event", .str e.name),
    ("detail", .obj [
      ("severity", .str (protocol.classify e).severity.name),
      ("contact_support", .bool (protocol.classify e).contactSupport)])]).text
  account := some account

/-- Between two states of a client some events were reported, and the journal was told them all and
nothing else. -/
structure Client.Tells (protocol : Protocol) (account : String) (kinds : List EventKind)
    (c c' : Client) : Prop where
  reports : c'.transcript.reports = c.transcript.reports ++ kinds.map EventKind.name
  journals : Journals (kinds.map (EventKind.journaled protocol account)) c c'

namespace Client

variable {protocol : Protocol} {account : String} {c c' c'' : Client}
  {kinds more : List EventKind}

/-- A client that has done nothing has told nothing. -/
theorem Tells.refl (c : Client) : Tells protocol account [] c c :=
  ⟨(List.append_nil _).symm, .refl c⟩

/-- What was told first comes before what was told then. -/
theorem Tells.trans (h : Tells protocol account kinds c c')
    (h' : Tells protocol account more c' c'') : Tells protocol account (kinds ++ more) c c'' where
  reports := by rw [h'.reports, h.reports, List.map_append, List.append_assoc]
  journals := by
    rw [List.map_append]
    exact h.journals.trans h'.journals

/-- What does not report and touches neither the journal nor the bus tells nothing. -/
theorem Tells.of_outbox (hreports : c'.transcript.reports = c.transcript.reports)
    (hjournal : c'.journal = c.journal) (hbus : c'.bus = c.bus) :
    Tells protocol account [] c c' :=
  ⟨hreports.trans (List.append_nil _).symm, .of_outbox hjournal hbus⟩

/-- Entries without a report tell nothing. -/
theorem Tells.noting {entries : Transcript} (h : entries.reports = []) (c : Client) :
    Tells protocol account [] c (c.noting entries) := by
  refine .of_outbox ?_ rfl rfl
  show Transcript.reports (c.transcript ++ entries) = _
  rw [Transcript.reports_append, h, List.append_nil]

/-- A report tells its event. -/
theorem Tells.report (protocol : Protocol) (account : String) (c : Client) (e : EventKind) :
    Tells protocol account [e] c ((Reporter.toBus protocol account).report e c).2 := by
  obtain ⟨c', hreport, hafter⟩ := (Reporter.toBus_isQuiet protocol account).report e c
  refine ⟨by rw [hreport]; exact hafter.reports, ?_⟩
  let noted := c.noting [.record {
    level := .debug, logger := LogSource.reporting.logger, plain := false, event := "vvm.report"
    fields := [("vvm_event", .str e.name)], context := c.context }]
  have hnoted : Journals [] c noted := .of_outbox rfl rfl
  rw [Reporter.report, bind_ok (log_apply ..)]
  show Journals _ c (discard (dispatchQuietly Hook.vvmEvent.name
    (.obj (Reporter.payload protocol account e)) (some account)) noted : Except Failure Unit × _).2
  rw [discard_apply]
  exact hnoted.trans (Journals.dispatchQuietly Hook.vvmEvent.name _ (some account) noted)

/-- A move tells one event, if it is a report, and else nothing. -/
theorem Move.tells (h : Move protocol account c c') :
    ∃ kinds, Tells protocol account kinds c c' := by
  cases h with
  | record r hlogger hcontext => exact ⟨[], .noting (Transcript.IsSilent.record hlogger).2 c⟩
  | call call => exact ⟨[], .noting rfl c⟩
  | store | draw | session => exact ⟨[], .of_outbox rfl rfl rfl⟩
  | report e => exact ⟨[e], .report protocol account c e⟩

/-- Moves one after another tell what each of them tells. -/
theorem tells_of_moves (h : Relation.ReflTransGen (Move protocol account) c c') :
    ∃ kinds, Tells protocol account kinds c c' := by
  induction h with
  | refl => exact ⟨[], .refl c⟩
  | tail _ move ih =>
    obtain ⟨kinds, htells⟩ := ih
    obtain ⟨more, hmore⟩ := move.tells
    exact ⟨kinds ++ more, htells.trans hmore⟩

/-- The events that are told are those that are reported. -/
theorem Tells.of_reports (h : ∃ kinds, Tells protocol account kinds c c')
    (hreports : c'.transcript.reports = c.transcript.reports ++ kinds.map EventKind.name) :
    Tells protocol account kinds c c' := by
  obtain ⟨kinds', htells⟩ := h
  have heq : kinds'.map EventKind.name = kinds.map EventKind.name :=
    List.append_cancel_left (htells.reports.symm.trans hreports)
  rwa [List.map_injective_iff.2 EventKind.name_injective heq] at htells

end Client

/-! ## The events of a setup -/

/-- The events of a setup: one about the PIN at most, and after it only that the setup has
failed. -/
def IsSetup (kinds : List EventKind) : Prop :=
  ∃ (pin : Option EventKind) (failures : Nat),
    (∀ e ∈ pin, e = .defaultPinReplaced ∨ e = .pinChangeRejected) ∧
      kinds = pin.toList ++ List.replicate failures .newUserSetupFailed

/-- Names are those of the events of a setup. -/
def NamesSetup (reports : List String) : Prop :=
  ∃ kinds, IsSetup kinds ∧ reports = kinds.map EventKind.name

/-- A setup may report nothing at all. -/
theorem namesSetup_nil : NamesSetup [] := ⟨[], ⟨none, 0, nofun, rfl⟩, rfl⟩

/-- It may report nothing but that it has failed. -/
theorem namesSetup_failed : NamesSetup [EventKind.newUserSetupFailed.name] :=
  ⟨[.newUserSetupFailed], ⟨none, 1, nofun, rfl⟩, rfl⟩

/-- A setup can fail after everything else. -/
theorem NamesSetup.append_failed {reports : List String} (h : NamesSetup reports) :
    NamesSetup (reports ++ [EventKind.newUserSetupFailed.name]) := by
  obtain ⟨_, ⟨pin, failures, hpin, rfl⟩, rfl⟩ := h
  refine ⟨_, ⟨pin, failures + 1, hpin, rfl⟩, ?_⟩
  simp only [List.replicate_succ', List.map_append, List.append_assoc, List.map_singleton]

namespace Bootstrap

variable {p : Platform} {b : Bootstrap} {identifier : String} {spanish pinSet : Bool}
  {c c' : Client} {calls : List Call} {reports : List String} {r : Except Failure Bool}

/-- The PIN step reports one event about the PIN at most, or that the setup has failed. -/
theorem PinStep.namesSetup (h : PinStep p b identifier pinSet c calls reports r c') :
    NamesSetup reports := by
  cases h with
  | kept | unanswered => exact namesSetup_nil
  | underivable => exact namesSetup_failed
  | rejected => exact ⟨[.pinChangeRejected], ⟨some .pinChangeRejected, 0, by simp, rfl⟩, rfl⟩
  | replaced => exact ⟨[.defaultPinReplaced], ⟨some .defaultPinReplaced, 0, by simp, rfl⟩, rfl⟩

/-- No command of a setup reports another event. -/
theorem Commands.namesSetup (h : Commands p b identifier spanish pinSet c calls reports r c') :
    NamesSetup reports := by
  cases h with
  | language => exact namesSetup_nil
  | stopped _ _ _ pin => exact pin.namesSetup
  | tutorial _ _ _ pin => exact pin.namesSetup

/-- Nor does its session. -/
theorem Session.namesSetup (h : Session p b identifier spanish pinSet c calls reports r c') :
    NamesSetup reports := by
  cases h with
  | refused | noNetwork | notOpened => exact namesSetup_nil
  | worked _ _ _ _ work => exact work.2.namesSetup

/-- A setup that ends without a network reports that it has failed, after everything else. -/
theorem Ending.namesSetup {r' : Except Failure Outcome} {more : List String}
    (h : Ending r more r') (hreports : NamesSetup reports) : NamesSetup (reports ++ more) := by
  cases h with
  | confirmed | unconfirmed | ended | failed => rwa [List.append_nil]
  | unavailable => exact hreports.append_failed

end Bootstrap

namespace Attempt

variable {p : Platform} {a : Attempt} {s : StatusResponse} {c c' : Client} {calls : List Call}
  {reports : List String} {r r' : Except Failure Outcome}

/-- So does an attempt that handles a failure. -/
theorem Handling.namesSetup {more : List String} (h : Handling r more r')
    (hreports : NamesSetup reports) : NamesSetup (reports ++ more) := by
  cases h with
  | outcome | passed => rwa [List.append_nil]
  | handled => exact hreports.append_failed

/-- However a course goes, its reports are those of a setup. -/
theorem Course.namesSetup (h : Course p a s c calls reports r c') : NamesSetup reports := by
  cases h with
  | intro before session ending handling after asked =>
    rw [← List.append_assoc]
    exact handling.namesSetup (ending.namesSetup session.namesSetup)

/-! ## Attempts -/

/-- Events are those of an action. -/
def Suits : Action → List EventKind → Prop
  | .provisionNewUser, kinds => IsSetup kinds
  | action, kinds => kinds = plainEvents action

/-- Carrying out an action tells the events of the action. -/
theorem carryOut_tells (p : Platform) (a : Attempt) (s : StatusResponse) (action : Action)
    (c : Client) :
    ∃ kinds, Suits action kinds ∧
      Tells a.protocol a.account kinds c (a.carryOut p s action c).2 := by
  have htells := tells_of_moves (a.carryOut_moves p s action c)
  by_cases h : action = .provisionNewUser
  · subst h
    obtain ⟨calls, reports, r, c', hrun, hcourse⟩ := setUpNewUser_course p a s c
    obtain ⟨kinds, hsetup, rfl⟩ := hcourse.namesSetup
    refine ⟨kinds, hsetup, .of_reports htells ?_⟩
    show (a.setUpNewUser p s c).2.transcript.reports = _
    rw [hrun]
    exact hcourse.follows.reports
  · obtain ⟨calls, r, c', hrun, -, -, hafter⟩ := carryOut_other h p a s c
    have hsuits : Suits action (plainEvents action) := by
      cases action with
      | provisionNewUser => exact absurd rfl h
      | _ => rfl
    refine ⟨_, hsuits, .of_reports htells ?_⟩
    rw [hrun]
    exact hafter.reports

/-- The event that the end of an attempt appends to the journal: the account, the protocol, the
action and the outcome. -/
def journaledEnd (a : Attempt) (action : Action) (outcome : Outcome) : JournaledEvent where
  hook := "post_provision"
  payload := (Json.obj [
    ("account_id", .str a.account),
    ("protocol", .str a.protocol.name),
    ("action", .str action.name),
    ("outcome", .str outcome.name)]).text
  account := some a.account

/-- What an attempt reported and appended to the journal, by what came of it. -/
structure Journaled (a : Attempt) (s : StatusResponse) (c : Client)
    (run : Except Failure Outcome × Client) (kinds : List EventKind) : Prop where
  reports : run.2.transcript.reports = c.transcript.reports ++ kinds.map EventKind.name
  /-- The events are those of the action; -/
  suits : ∀ action, a.Routes s action → Suits action kinds
  /-- without an action there are none. -/
  unrouted : (∀ action, ¬a.Routes s action) → kinds = []
  /-- An attempt with an outcome appends a row for each report, and then the one of the outcome. -/
  outcome : ∀ o, run.1 = .ok o → ∃ action, a.Routes s action ∧
    Journals (kinds.map (EventKind.journaled a.protocol a.account) ++ [a.journaledEnd action o])
      c run.2
  /-- An attempt that fails appends a row for each report, and nothing else. -/
  failure : ∀ e, run.1 = .error e →
    Journals (kinds.map (EventKind.journaled a.protocol a.account)) c run.2

/-- The end of an attempt appends the row of an outcome. -/
theorem finished_journals (a : Attempt) (action : Action) (o : Outcome) (c : Client) :
    Journals [a.journaledEnd action o] c (a.finished action (.ok o) c) :=
  (Journals.of_outbox rfl rfl : Journals [] c (telling ..)).trans (Journals.dispatchQuietly ..)

/-- An attempt with an action appends a row for each event of the action, and one for the
outcome. -/
theorem journaled_of_routes {action : Action} (hroute : a.Routes s action) (p : Platform)
    (c : Client) : ∃ kinds, a.Journaled s c (a.provision p s c) kinds := by
  obtain ⟨kinds, hsuits, htells⟩ := carryOut_tells p a s action (a.started s action c)
  have hstarted : Tells a.protocol a.account [] c (a.started s action c) :=
    .of_outbox ((after_telling ..).reports.trans (List.append_nil _)) rfl rfl
  generalize hcarry : a.carryOut p s action (a.started s action c) = run at htells
  obtain ⟨r, c₁⟩ := run
  have htells := hstarted.trans htells
  have hfinished := a.after_finished action r c₁
  rw [provision_apply hroute hcarry]
  refine ⟨kinds, ?_, fun action' h => h.unique hroute ▸ hsuits, fun h => absurd hroute (h _),
    ?_, ?_⟩
  · exact (hfinished.reports.trans (List.append_nil _)).trans htells.reports
  · rintro o rfl
    have hall := htells.journals.trans (a.finished_journals action o c₁)
    exact ⟨action, hroute, hall.bus, hall.events⟩
  · rintro e rfl
    exact ⟨htells.journals.bus, htells.journals.events⟩

/-- An attempt without an action fails and appends nothing. -/
theorem journaled_of_not_routes (hnone : ∀ action, ¬a.Routes s action) (p : Platform)
    (c : Client) : a.Journaled s c (a.provision p s c) [] := by
  obtain ⟨e, entries, hrun, hsilent, -⟩ := provision_unrouted_records (p := p) (c := c) hnone
  have htells : Tells a.protocol a.account [] c (c.noting entries) := .noting hsilent.2 c
  rw [hrun]
  exact ⟨htells.reports, fun action h => absurd h (hnone _), fun _ => rfl, nofun,
    fun _ _ => htells.journals⟩

/-- Whatever the platform does, an attempt appends to the journal a row for each of its reports, and
after them one row for its outcome if it has one. -/
theorem provision_journals (p : Platform) (a : Attempt) (s : StatusResponse) (c : Client) :
    ∃ kinds, a.Journaled s c (a.provision p s c) kinds := by
  by_cases hroute : ∃ action, a.Routes s action
  · exact journaled_of_routes hroute.choose_spec p c
  · exact ⟨[], journaled_of_not_routes (not_exists.1 hroute) p c⟩

end Attempt

end Voicemail
