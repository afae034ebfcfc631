import Voicemail.CommandLine.Query
import Voicemail.Diagnostics
import Voicemail.Log.Line
import Voicemail.Settings.Load
import Voicemail.Store

/-!
# Answers

A run of the program. `plan` reads the arguments and the settings and tells either the whole
response or which query the client is asked under which settings; the settings say where the
client's store is. `Query.answer` asks the client. A report of success is written to the output,
its warnings beside it where it is not JSON; a report of failure is written beside the output, and
the run fails. Log lines stand beside the output, in the order in which things happened.
-/

namespace Voicemail.CommandLine

/-- What a run leaves behind. -/
structure Response where
  exit : Nat
  output : String := ""
  /-- What is written beside the output. -/
  messages : String := ""
  /-- What stopped the run, if it stopped without an answer. -/
  failure : Option Failure := none

namespace Response

/-- Texts, each on lines of its own. -/
def linesOf (texts : List String) : String := String.join (texts.map (· ++ "\n"))

/-- The response that ends the reading of arguments. -/
def ofEnding : Ending → Response
  | .page text => { exit := 0, output := linesOf [text] }
  | .usage m e => { exit := 2, messages := linesOf [m.complaint e] }
  | .bareGroup m => { exit := 2, messages := linesOf [m.help] }

/-- The response to a failure; only a malformed configuration file has an explanation for the user
of the program. -/
def ofFailure (e : Failure) : Response :=
  match e with
  | .malformedConfig _ _ => { exit := 1, messages := linesOf ["Error: " ++ e.message] }
  | _ => { exit := 1, failure := some e }

/-- The response that a report is. -/
def ofReport (s : Settings) (r : Report) : Response :=
  match r.format s.jsonOutput s.quiet with
  | .error e => ofFailure e
  | .ok text =>
    if r.ok then
      { exit := 0, output := linesOf [text]
        messages := linesOf (if s.jsonOutput then [] else r.warnings.map ("WARNING: " ++ ·)) }
    else { exit := 1, messages := linesOf [text] }

/-- A response with texts before and after its messages. -/
def around (before after : List String) (r : Response) : Response :=
  { r with messages := linesOf before ++ r.messages ++ linesOf after }

end Response

/-- What a run comes to before the client is asked. -/
inductive Plan where
  | respond (r : Response)
  | ask (s : Settings) (q : Query)

/-- Reads the arguments and the settings of a run. A command that nobody knows is told before the
settings are read, and what is wrong with the arguments of a command only afterwards. -/
def plan (s : Surroundings) (args : List String) : Plan :=
  match Start.read args with
  | .error e => .respond (.ofEnding e)
  | .ok start =>
    match Settings.load s start.globals.config none start.globals.settings with
    | .error e => .respond (.ofFailure e)
    | .ok settings =>
      match start.command with
      | none => .respond (.ofEnding (.page Manual.main.help))
      | some (command, rest) =>
        match Query.read command rest with
        | .error e => .respond (.ofEnding e)
        | .ok q => .ask settings q

/-- The report on a query. -/
def Query.report : Query → ClientM Report
  | .route fields protocol => Client.Diagnostics.route (.ofFields fields) protocol
  | .commands protocol => Client.Diagnostics.commands protocol
  | .account name => Client.Diagnostics.account name
  | .defaultPin identifier => return Client.Diagnostics.defaultPin identifier
  | .generatePin policy length => Client.Diagnostics.generatePin policy length
  | .drainEvents => Client.Diagnostics.drainEvents

/-- What a run finds beside its store. -/
structure Host where
  /-- The entry points of the installed packages. -/
  installed : List EntryPoint
  /-- The locale of the system, if it has one. -/
  locale : Option String
  /-- The time that is written into log lines. -/
  time : String

/-- The lines of the log that are shown. -/
def logLines (h : Host) (s : Settings) (t : Transcript) : List String :=
  (t.records.filter (·.isShown s.verbose)).map (·.shown ⟨s.verbose, s.logJson⟩ h.time)

/-- Asks a client with a store; the result is the response, the store and the draws that are left.
The client is closed in any case. -/
def Query.answer (q : Query) (h : Host) (s : Settings) (store : Store) (draws : List Nat) :
    Response × Store × List Nat :=
  let start := { Client.new s h.locale draws with
    preferences := store.preferences, journal := store.journal, front := .ready }
  let body : ClientM Report := do
    Client.startBus h.installed s.dispatchSync
    q.report
  let (result, asked) := body start
  let (_, closed) := Client.close asked
  let response := match result with
    | .ok report => Response.ofReport s report
    | .error e => Response.ofFailure e
  let before := logLines h s asked.transcript
  let after := logLines h s (closed.transcript.drop asked.transcript.length)
  (response.around before after, ⟨closed.preferences, closed.journal⟩, closed.draws)

end Voicemail.CommandLine
