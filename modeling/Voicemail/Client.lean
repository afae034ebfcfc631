import Voicemail.Outbox
import Voicemail.Pin
import Voicemail.Platform
import Voicemail.Preferences
import Voicemail.Settings.Basic

/-!
# The client

The state of a client, and the steps from which its operations are built: asking the platform,
writing to the log, storing preferences and dispatching events. A step leaves its entries in the
transcript, also where it fails, so an operation's transcript tells the whole order of its effects.
-/

namespace Voicemail

/-- The state of a client. -/
structure Client where
  settings : Settings
  /-- The locale of the system, if it has one. -/
  systemLocale : Option String
  preferences : Preferences
  journal : Journal
  /-- Where events go, while the client has a place for them. -/
  bus : Option Bus
  /-- The random draws to come; when there are none left, every draw is zero. -/
  draws : List Nat
  /-- The tags of the records written now. -/
  context : LogContext
  /-- The commands of the open session, if one is open. -/
  session : Option CommandTable
  transcript : Transcript
  /-- Where the client's structured records are written. -/
  front : LogFront := .bare
  /-- Whether the journal is only kept in memory. -/
  inMemory : Bool := false

/-- An operation of a client: what it gives or why it stopped, and the client afterwards. -/
abbrev ClientM := ExceptT Failure (StateM Client)

namespace Client

/-- A client that has done nothing yet. -/
def new (settings : Settings) (systemLocale : Option String) (draws : List Nat) : Client :=
  { settings, systemLocale, preferences := .empty, journal := .empty, bus := none, draws
    context := .empty, session := none, transcript := [] }

/-- Adds entries to the transcript. -/
def note (entries : Transcript) : ClientM Unit :=
  modify fun c => { c with transcript := c.transcript ++ entries }

/-- Asks a collaborator. The call stands in the transcript before the answer is known. -/
def perform (p : Platform) (call : Call) : ClientM call.Answer := do
  let history := (← get).transcript.calls
  note [.call call]
  match p.respond history call with
  | .ok answer => return answer
  | .error f => throw (.fault f)

/-- Writes a structured record. -/
def log (source : LogSource) (level : LogLevel) (event : String)
    (fields : List (String × Json)) : ClientM Unit := do
  let context := (← get).context
  note [.record { level, logger := source.logger, plain := false, event, fields, context }]

/-- Writes a record that is a finished message. -/
def say (source : LogSource) (level : LogLevel) (message : String) : ClientM Unit := do
  let context := (← get).context
  note [.record {
    level, logger := source.logger, plain := true, event := message, fields := [], context }]

/-- Does the body, then the cleanup, whatever became of the body. A failure of the cleanup takes
the place of the body's. -/
def ensuring {α : Type} (body : ClientM α) (cleanup : ClientM Unit) : ClientM α := fun c =>
  let (result, c) := body c
  let (cleaned, c) := cleanup c
  match cleaned with
  | .ok () => (result, c)
  | .error e => (.error e, c)

/-- What became of an operation, as a value. -/
def attempt {α : Type} (body : ClientM α) : ClientM (Except Failure α) := fun c =>
  let (result, c) := body c
  (.ok result, c)

/-- Works with the tags of an account and a protocol, and restores the tags afterwards. -/
def within {α : Type} (account protocol : String) (body : ClientM α) : ClientM α := fun c =>
  let (result, after) := body { c with context := c.context.bind account protocol }
  (result, { after with context := c.context })

/-- Takes the next random draw. -/
def draw : ClientM Nat := do
  let c ← get
  set { c with draws := c.draws.tail }
  return c.draws.headD 0

/-- Draws a PIN of a length. Nothing is drawn for a length that no PIN can have. -/
def drawPin (length : Int) : ClientM String := do
  if Pin.isLength length then
    return Pin.ofDraw length.toNat (← draw)
  else throw (.invalidPinLength length)

/-- Changes the preferences. -/
def modifyPreferences (f : Preferences → Preferences) : ClientM Unit :=
  modify fun c => { c with preferences := f c.preferences }

/-- Stores texts or nulls for an account. -/
def putPreferences (account : String) (values : List (String × Option String)) : ClientM Unit := do
  modifyPreferences (·.putMany account values)
  unless values.isEmpty do
    say .preferences .debug s!"Stored {values.length} preference(s) for {account}"

/-- Stores every field of a status response for an account. -/
def putStatus (account : String) (fields : List (String × String)) : ClientM Unit :=
  putPreferences account (fields.map fun (key, value) => (key, some value))

/-- Removes a preference of an account. -/
def removePreference (account key : String) : ClientM Unit :=
  modifyPreferences (·.remove account key)

/-- Records the PIN to present as the old one, or clears it. -/
def setOldPin (account : String) : Option String → ClientM Unit
  | some pin => putPreferences account [(Preferences.pinKey, some pin)]
  | none => removePreference account Preferences.pinKey

/-- Enables or disables the service of an account. -/
def setEnabled (account : String) (enabled : Bool) : ClientM Unit :=
  putPreferences account [(Preferences.enabledKey, some (if enabled then "true" else "false"))]

/-- Works on the outbox. The member is what a client without a bus is found to lack. -/
def onOutbox {α : Type} (member : String)
    (f : LogContext → Outbox → Outbox × Transcript × Except Failure α) : ClientM α := do
  let c ← get
  match c.bus with
  | none => throw (.noMember "NoneType" member)
  | some bus =>
    let (o, entries, result) := f c.context ⟨c.journal, bus⟩
    set { c with journal := o.journal, bus := some o.bus }
    note entries
    result

/-- Dispatches an event. -/
def dispatch (hook : String) (payload : Json) (account : Option String) : ClientM Nat :=
  onOutbox "dispatch" fun context => Outbox.dispatch context hook payload account

/-- Delivers again every event that is owed. -/
def drain : ClientM (List Replay) := onOutbox "drain" Outbox.drain

/-- Stops the worker. -/
def shutdown : ClientM Unit :=
  onOutbox "shutdown" fun context o =>
    let (o, entries) := o.shutdown context
    (o, entries, .ok ())

/-- Registers a plugin. -/
def register (p : Plugin) (name : String) : ClientM Unit :=
  onOutbox "plugin_manager" fun _ o =>
    match o.bus.registry.register p name with
    | .ok r => (o.withRegistry r, [], .ok ())
    | .error e => (o, [], .error e)

/-- Loads installed plugins; the result is the names of all plugins. -/
def discover (installed : List EntryPoint) : ClientM (List String) :=
  onOutbox "plugin_manager" fun context o =>
    let d := o.bus.registry.discover installed
    let o := o.withRegistry d.registry
    (o, (d.records context).map .record,
      match d.stopped with
      | some f => .error f
      | none => .ok d.registry.names)

/-- Gives the client a bus with the installed plugins. -/
def startBus (installed : List EntryPoint) (synchronous : Bool) : ClientM Unit := do
  let c ← get
  let d := Registry.discover installed { front := c.front }
  note ((d.records c.context).map .record)
  match d.stopped with
  | some f => throw f
  | none =>
    let events := c.settings.events
    let bus ← Bus.start d.registry synchronous events.maxRetries events.maxWorkers
    modify fun c => { c with bus := some { bus with journalInReach := !c.inMemory } }

/-- Stops the worker and gives the bus up. Preferences and journal stay. -/
def close : ClientM Unit := do
  if (← get).bus.isSome then
    shutdown
    modify fun c => { c with bus := none }

/-- Does the dispatch of an event on behalf of a service. No failure comes of it, only a warning. -/
def warnOnFailure (hook : String) (body : ClientM Nat) : ClientM (List String) := do
  match ← attempt body with
  | .ok _ => return []
  | .error _ =>
    let warning := s!"Event dispatch failed for {hook}"
    say .service .debug warning
    return [warning]

/-- Dispatches an event on behalf of a service; a client without a bus does nothing. -/
def dispatchQuietly (hook : String) (payload : Json) (account : Option String) :
    ClientM (List String) := do
  if (← get).bus.isNone then
    return []
  warnOnFailure hook (dispatch hook payload account)

end Client

end Voicemail
