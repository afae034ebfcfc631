import Voicemail.Proofs.Client.Run
import Voicemail.Proofs.Except
import Voicemail.Reporter

/-!
# What a client did

A run is told by what it left in the transcript: the calls of collaborators and the reported events,
each in order. `Client.After` says that a client is another one after some calls and reports, and
that nothing else about it is different but the journal and its bus. What a run changes beside that
stands on the left: a client whose session was closed is `After { c with session := none }`.

Delivering events makes no call and no report, so reporting to the bus only reports
(`Reporter.toBus_isQuiet`).
-/

namespace Voicemail

/-! ## Reports -/

/-- The name of the event that an entry tells of, if it is a record of the reporter. -/
def Entry.reported? : Entry → Option String
  | .record r =>
    if r.logger = LogSource.reporting.logger then
      match r.fields.lookup "vvm_event" with
      | some (.str event) => some event
      | _ => none
    else none
  | _ => none

namespace Transcript

/-- The names of the events that were reported, oldest first. -/
def reports (t : Transcript) : List String := t.filterMap Entry.reported?

/-- A transcript without calls of collaborators and without reports. -/
def IsSilent (t : Transcript) : Prop := t.calls = [] ∧ t.reports = []

/-- The calls among some entries come before those among later ones, -/
theorem calls_append (t u : Transcript) : calls (t ++ u) = calls t ++ calls u :=
  List.filterMap_append

/-- and so do the reports. -/
theorem reports_append (t u : Transcript) : reports (t ++ u) = reports t ++ reports u :=
  List.filterMap_append

/-- There is neither a call nor a report among no entries. -/
theorem IsSilent.nil : IsSilent [] := ⟨rfl, rfl⟩

/-- Silence after silence is silence. -/
theorem IsSilent.append {t u : Transcript} (ht : IsSilent t) (hu : IsSilent u) :
    IsSilent (t ++ u) := by
  refine ⟨?_, ?_⟩
  · rw [calls_append, ht.1, hu.1]
    rfl
  · rw [reports_append, ht.2, hu.2]
    rfl

/-- A record that is not the reporter's is silent. -/
theorem IsSilent.record {r : LogRecord} (h : r.logger ≠ LogSource.reporting.logger) :
    IsSilent [.record r] := by
  refine ⟨rfl, ?_⟩
  simp [reports, Entry.reported?, h]

end Transcript

/-! ## A client after some steps -/

namespace Client

/-- The client afterwards: it has made some calls and reports, and apart from the events it is the
same. -/
structure After (c : Client) (calls : List Call) (reports : List String) (c' : Client) : Prop where
  calls : c'.transcript.calls = c.transcript.calls ++ calls
  reports : c'.transcript.reports = c.transcript.reports ++ reports
  settings : c'.settings = c.settings
  systemLocale : c'.systemLocale = c.systemLocale
  preferences : c'.preferences = c.preferences
  draws : c'.draws = c.draws
  context : c'.context = c.context
  session : c'.session = c.session

namespace After

variable {c c' c'' : Client} {calls calls' : List Call} {reports reports' : List String}

/-- A client that does nothing has made no call and no report. -/
theorem refl (c : Client) : After c [] [] c := by
  constructor <;> simp

/-- Steps after others have made the calls and reports of both. -/
theorem trans (h : After c calls reports c') (h' : After c' calls' reports' c'') :
    After c (calls ++ calls') (reports ++ reports') c'' where
  calls := by rw [h'.calls, h.calls, List.append_assoc]
  reports := by rw [h'.reports, h.reports, List.append_assoc]
  settings := h'.settings.trans h.settings
  systemLocale := h'.systemLocale.trans h.systemLocale
  preferences := h'.preferences.trans h.preferences
  draws := h'.draws.trans h.draws
  context := h'.context.trans h.context
  session := h'.session.trans h.session

/-- Steps without call and report after others. -/
theorem quietly (h : After c calls reports c') (h' : After c' [] [] c'') :
    After c calls reports c'' := by
  simpa using h.trans h'

/-- Steps without call and report before others. -/
theorem after_quiet (h : After c [] [] c') (h' : After c' calls reports c'') :
    After c calls reports c'' := by
  simpa using h.trans h'

/-- Steps do not look at whether a session is open. -/
theorem withSession (h : After c calls reports c') (session : Option CommandTable) :
    After { c with session } calls reports { c' with session } :=
  ⟨h.calls, h.reports, h.settings, h.systemLocale, h.preferences, h.draws, h.context, rfl⟩

/-- Steps with other tags bound, which are then taken off again. -/
theorem withContext {bound : LogContext} (h : After { c with context := bound } calls reports c')
    (context : LogContext) : After { c with context } calls reports { c' with context } :=
  ⟨h.calls, h.reports, h.settings, h.systemLocale, h.preferences, h.draws, rfl, h.session⟩

/-- Steps afterwards take place with other preferences as well. -/
theorem storing (h : After c calls reports c') (preferences : Preferences) :
    After { c with preferences } calls reports { c' with preferences } :=
  ⟨h.calls, h.reports, h.settings, h.systemLocale, rfl, h.draws, h.context, h.session⟩

/-- Noting entries leaves them in the transcript. -/
theorem noting (entries : Transcript) (c : Client) :
    After c entries.calls entries.reports (c.noting entries) := by
  constructor <;> try rfl
  · exact Transcript.calls_append ..
  · exact Transcript.reports_append ..

/-- Entries that are silent change nothing. -/
theorem noting_silent {entries : Transcript} (h : entries.IsSilent) (c : Client) :
    After c [] [] (c.noting entries) := by
  simpa only [h.1, h.2] using noting entries c

/-- Writing a record of another part than the reporter. -/
theorem log (source : LogSource) (h : source.logger ≠ LogSource.reporting.logger) (level : LogLevel)
    (event : String) (fields : List (String × Json)) (c : Client) :
    ∃ c', Client.log source level event fields c = (.ok (), c') ∧ After c [] [] c' :=
  ⟨_, log_apply .., noting_silent (.record h) c⟩

/-- Writing a finished message of another part than the reporter. -/
theorem say (source : LogSource) (h : source.logger ≠ LogSource.reporting.logger) (level : LogLevel)
    (message : String) (c : Client) :
    ∃ c', Client.say source level message c = (.ok (), c') ∧ After c [] [] c' :=
  ⟨_, say_apply .., noting_silent (.record h) c⟩

/-- A call of a collaborator. -/
theorem perform (p : Platform) (call : Call) (c : Client) :
    ∃ c', Client.perform p call c =
      ((p.respond c.transcript.calls call).mapError .fault, c') ∧ After c [call] [] c' :=
  ⟨_, perform_apply p call c, noting [.call call] c⟩

/-- A change of the outbox that leaves silent entries. -/
theorem withOutbox {entries : Transcript} (h : entries.IsSilent) (o : Outbox) (c : Client) :
    After c [] [] (c.withOutbox o entries) := by
  constructor <;> try rfl
  · exact (noting_silent h c).calls
  · exact (noting_silent h c).reports

end After

/-! ## Preferences -/

/-- Storing texts changes the preferences and nothing else. -/
theorem After.putPreferences (account : String) (values : List (String × Option String))
    (c : Client) :
    ∃ c', Client.putPreferences account values c = (.ok (), c') ∧
      After { c with preferences := c.preferences.putMany account values } [] [] c' := by
  let stored : Client := { c with preferences := c.preferences.putMany account values }
  have hmodify : modifyPreferences (·.putMany account values) c = (.ok (), stored) := rfl
  rw [Client.putPreferences, bind_ok hmodify]
  cases values with
  | nil => exact ⟨stored, rfl, .refl stored⟩
  | cons value rest => exact After.say .preferences (by decide) .debug _ stored

/-- Recording a PIN changes the preferences and nothing else. -/
theorem After.setOldPin (account pin : String) (c : Client) :
    ∃ c', Client.setOldPin account (some pin) c = (.ok (), c') ∧
      After { c with preferences := c.preferences.setOldPin account (some pin) } [] [] c' :=
  After.putPreferences account [(Preferences.pinKey, some pin)] c

/-- The client afterwards has made some calls and reports, and apart from draws, preferences and
events it is the same. -/
def Follows (c : Client) (calls : List Call) (reports : List String) (c' : Client) : Prop :=
  After { c with draws := c'.draws, preferences := c'.preferences } calls reports c'

namespace Follows

variable {c c' c'' : Client} {calls calls' : List Call} {reports reports' : List String}

/-- Steps after others, which may all draw and store. -/
theorem trans (h : Follows c calls reports c') (h' : Follows c' calls' reports' c'') :
    Follows c (calls ++ calls') (reports ++ reports') c'' where
  calls := (h'.calls.trans (congrArg (· ++ calls') h.calls)).trans (List.append_assoc ..)
  reports := (h'.reports.trans (congrArg (· ++ reports') h.reports)).trans (List.append_assoc ..)
  settings := h'.settings.trans h.settings
  systemLocale := h'.systemLocale.trans h.systemLocale
  preferences := rfl
  draws := rfl
  context := h'.context.trans h.context
  session := h'.session.trans h.session

/-- Steps do not look at whether a session is open. -/
theorem withSession (h : Follows c calls reports c') (session : Option CommandTable) :
    Follows { c with session } calls reports { c' with session } :=
  After.withSession h session

end Follows

/-- Steps after which draws and preferences may be others. -/
theorem After.follows_of {c c' : Client} {calls : List Call} {reports : List String}
    {draws : List Nat} {preferences : Preferences}
    (h : After { c with draws, preferences } calls reports c') : Follows c calls reports c' :=
  ⟨h.calls, h.reports, h.settings, h.systemLocale, rfl, rfl, h.context, h.session⟩

/-- Steps that leave draws and preferences as they are. -/
theorem After.follows {c c' : Client} {calls : List Call} {reports : List String}
    (h : After c calls reports c') : Follows c calls reports c' :=
  h.follows_of

end Client

/-! ## Delivering events is silent -/

/-- The record of the event log is its own. -/
theorem Member.eventLogRecord_logger {front : LogFront} {context : LogContext} {h : Hook}
    {arguments : List Json} {r : LogRecord}
    (hr : Member.eventLogRecord front context h arguments = .ok r) :
    r.logger = LogSource.eventLog.logger := by
  unfold Member.eventLogRecord at hr
  split at hr
  · unfold Member.eventRecord at hr
    split at hr
    · obtain ⟨grave, -, hr⟩ := exists_of_bind_ok hr
      dsimp only at hr
      split at hr
      · cases hr
      · cases hr
        rfl
    · cases hr
  · cases hr
    rfl
  · cases hr

/-- What a member does when it is called is silent. -/
theorem Member.receive_isSilent (context : LogContext) (h : Hook) (arguments : List Json)
    (m : Member) : (m.receive context h arguments).2.1.IsSilent := by
  cases m with
  | eventLog front =>
    simp only [receive]
    cases hr : eventLogRecord front context h arguments with
    | error => exact .nil
    | ok r => exact .record (by rw [eventLogRecord_logger hr]; decide)
  | plugin p =>
    simp only [receive]
    cases p.respond p.calls h arguments <;> exact ⟨rfl, rfl⟩
  | «class» => exact .nil

namespace Registry

/-- What members do when a hook is called on them is silent. -/
theorem callMembers_isSilent (context : LogContext) (h : Hook) (payload : List (String × Json))
    (members : List (String × Member)) :
    (callMembers context h payload members).2.1.IsSilent := by
  induction members with
  | nil => exact .nil
  | cons member rest ih =>
    obtain ⟨name, m⟩ := member
    unfold callMembers
    split
    · cases arguments h payload with
      | error => exact .nil
      | ok values =>
        have hsilent := m.receive_isSilent context h values
        dsimp only
        generalize m.receive context h values = received at hsilent ⊢
        obtain ⟨m', entries, result⟩ := received
        cases result with
        | error => exact hsilent
        | ok => exact hsilent.append ih
    · exact ih

/-- What comes of the call of a hook by its name is silent. -/
theorem callNamed_isSilent (context : LogContext) (name : String) (payload : Json)
    (r : Registry) : (r.callNamed context name payload).2.1.IsSilent := by
  unfold callNamed
  split
  · exact .nil
  · unfold call
    split
    · exact .nil
    · exact callMembers_isSilent ..
  · exact .nil
  · exact .nil

end Registry

namespace Outbox

/-- A delivery is silent. -/
theorem deliver_isSilent (context : LogContext) (d : Delivery) (o : Outbox) :
    (o.deliver context d).2.1.IsSilent := by
  have hsilent := o.bus.registry.callNamed_isSilent context d.hook d.payload
  unfold deliver
  generalize o.bus.registry.callNamed context d.hook d.payload = called at hsilent ⊢
  obtain ⟨registry, entries, result⟩ := called
  have hrecord (message : String) : Transcript.IsSilent [record .debug context message] :=
    .record (show LogSource.eventBus.logger ≠ LogSource.reporting.logger by decide)
  cases result with
  | ok => exact hsilent
  | error e =>
    dsimp only
    split <;> exact hsilent.append (hrecord _)

/-- Dispatching an event is silent. -/
theorem dispatch_isSilent (context : LogContext) (hook : String) (payload : Json)
    (account : Option String) (o : Outbox) :
    (o.dispatch context hook payload account).2.1.IsSilent := by
  unfold dispatch
  dsimp only
  split
  · exact .nil
  · exact deliver_isSilent ..

end Outbox

/-! ## Reporters -/

/-- Dispatching an event for a service neither fails nor does anything but that. -/
theorem Client.After.dispatchQuietly (hook : String) (payload : Json) (account : Option String)
    (c : Client) :
    ∃ warnings c', Client.dispatchQuietly hook payload account c = (.ok warnings, c') ∧
      After c [] [] c' := by
  simp only [Client.dispatchQuietly, bind_ok (get_apply c)]
  cases hb : c.bus with
  | none => exact ⟨[], c, rfl, .refl c⟩
  | some bus =>
    have hdispatch := onOutbox_some hb "dispatch" fun context =>
      Outbox.dispatch context hook payload account
    have hafter := withOutbox
      (Outbox.dispatch_isSilent c.context hook payload account ⟨c.journal, bus⟩)
      (Outbox.dispatch c.context hook payload account ⟨c.journal, bus⟩).1 c
    simp only [Option.isNone_some, Bool.false_eq_true, if_false, warnOnFailure, Client.dispatch,
      bind_ok (attempt_apply _ c), hdispatch]
    cases (Outbox.dispatch c.context hook payload account ⟨c.journal, bus⟩).2.2 with
    | ok id => exact ⟨[], _, rfl, hafter⟩
    | error e =>
      obtain ⟨c', hsay, hafter'⟩ := say .service (by decide) .debug
        s!"Event dispatch failed for {hook}" (c.withOutbox
          (Outbox.dispatch c.context hook payload account ⟨c.journal, bus⟩).1
          (Outbox.dispatch c.context hook payload account ⟨c.journal, bus⟩).2.1)
      exact ⟨_, c', bind_ok hsay, hafter.quietly hafter'⟩

/-- A reporter that sends events on their way without fail, and does nothing else with them. -/
def Reporter.IsQuiet (r : Reporter) : Prop :=
  ∀ hook payload c, ∃ c', r.send hook payload c = (.ok (), c') ∧ Client.After c [] [] c'

/-- Reporting to the bus is quiet, whatever becomes of the events. -/
theorem Reporter.toBus_isQuiet (protocol : Protocol) (account : String) :
    (Reporter.toBus protocol account).IsQuiet := by
  intro hook payload c
  obtain ⟨warnings, c', hsend, hafter⟩ :=
    Client.After.dispatchQuietly hook.name (.obj payload) (some account) c
  refine ⟨c', ?_, hafter⟩
  simp only [toBus, Client.discard_apply, hsend]
  rfl

/-- A report of a quiet reporter is one report. -/
theorem Reporter.IsQuiet.report {r : Reporter} (h : r.IsQuiet) (e : EventKind) (c : Client) :
    ∃ c', r.report e c = (.ok (), c') ∧ Client.After c [] [e.name] c' := by
  let record : LogRecord :=
    { level := .debug, logger := LogSource.reporting.logger, plain := false, event := "vvm.report"
      fields := [("vvm_event", .str e.name)], context := c.context }
  obtain ⟨c', hsend, hafter⟩ := h .vvmEvent (payload r.protocol r.account e)
    (c.noting [.record record])
  have hlog : Client.After c [] [e.name] (c.noting [.record record]) := .noting [.record record] c
  refine ⟨c', ?_, hlog.quietly hafter⟩
  rw [Reporter.report, Client.bind_ok (Client.log_apply ..)]
  exact hsend

end Voicemail
