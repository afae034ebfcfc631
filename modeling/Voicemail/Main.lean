import Voicemail.CommandLine.Answer
import Voicemail.Log.Time
import Voicemail.Store.Place

/-!
# The program

The outer layer of the command line. It gathers what a run finds around it, lets
`CommandLine.plan` and `Query.answer` decide, and writes down what they say. The store is a document
in the file that the settings name.
-/

namespace Voicemail.Program

/-- The text of a file, if it can be read. -/
def text? (name : String) : IO (Option String) := do
  try
    return String.fromUTF8? (← IO.FS.readBinFile name)
  catch _ =>
    return none

/-- The bytes of a regular file, if it can be read. -/
def bytes? (p : Path) : IO (Option (List UInt8)) := do
  try
    return some (← IO.FS.readBinFile p.text).toList
  catch _ =>
    return none

/-- A variable of the environment out of its definition. -/
def variableOf (definition : String) : Option (String × String) :=
  match CommandLine.Arguments.splitValue definition.toList with
  | (name, some value) => some (name, value)
  | _ => none

/-- The variables of the environment. -/
def environment : IO Environment := do
  let definitions := ((← text? "/proc/self/environ").getD "").splitOn "\x00"
  return definitions.filterMap variableOf

/-- The files that may be the configuration document. -/
def candidates (directory : Path) (env : Environment) (named : Option String) : List Path :=
  let chosen := [named, env.lookup Surroundings.configVariable].filterMap id
  let above := (List.range (directory.names.length + 1)).map fun n =>
    Path.join { directory with names := directory.names.take n } Surroundings.configName
  chosen.map (fun name => directory.under (.ofString name)) ++ above

/-- The configuration file that the arguments name. -/
def namedConfig (args : List String) : Option String :=
  match CommandLine.Start.read args with
  | .ok start => start.globals.config
  | .error _ => none

/-- What a run finds around it. -/
def surroundings (args : List String) : IO Surroundings := do
  let env ← environment
  let directory := Path.ofString ((env.lookup "PWD").getD "/")
  let files ← (candidates directory env (namedConfig args)).mapM fun p => do
    return (p, ← bytes? p)
  let look (p : Path) : Except PathFault (Option (List UInt8)) :=
    .ok (files.lookup (directory.under p)).join
  return { directory, environment := env, look }

/-- The number that a line of words begins with, after a word. -/
def numberAfter (word : String) (text : String) : Option Nat :=
  (text.splitOn "\n").findSome? fun line =>
    match line.splitOn " " with
    | first :: second :: _ => if first = word then second.toNat? else none
    | _ => none

/-- The microseconds that a number of seconds with a fraction writes. -/
def microseconds (text : String) : Nat :=
  match text.splitOn "." with
  | whole :: fraction :: _ =>
    let digits := (fraction ++ "000000").take 6
    (whole.toNat?.getD 0) * 1000000 + digits.toString.toNat?.getD 0
  | _ => 0

/-- The time now: that of the start of the system, and how long ago it was. -/
def time : IO String := do
  let started := (numberAfter "btime" ((← text? "/proc/stat").getD "")).getD 0
  let since := microseconds ((((← text? "/proc/uptime").getD "").splitOn " ").headD "")
  return LogRecord.timeText (started * 1000000 + since)

/-- Writes down a response. -/
def respond (r : CommandLine.Response) : IO UInt32 := do
  IO.print r.output
  IO.eprint r.messages
  if let some e := r.failure then
    IO.eprintln s!"Error: {e.message}"
  return UInt32.ofNat r.exit

/-- The document of the store at a place, if there is one. -/
def document? : Store.Place → IO (Option String)
  | .memory => return none
  | .file p => text? p.text

/-- Writes the document of a store to its place. -/
def keep (store : Store) : Store.Place → IO Unit
  | .memory => return ()
  | .file p => do
    IO.FS.createDirAll p.parent.text
    IO.FS.writeFile p.text store.document

/-- Asks the client of the store that the settings name. -/
def ask (s : Surroundings) (settings : Settings) (q : CommandLine.Query) : IO UInt32 := do
  let place := Store.Place.ofPath s.directory settings.databasePath
  match (← document? place).map Store.read? with
  | some none => respond (.ofFailure .notAStore)
  | found =>
    let store := found.join.getD .empty
    let draw ← IO.rand 0 (Nat.pow 10 Pin.maxLength - 1)
    let host : CommandLine.Host := { installed := [], locale := none, time := ← time }
    let (r, store, _) := q.answer host settings store [draw]
    keep store place
    respond r

end Voicemail.Program

/-- Runs the program with its arguments. -/
def main (args : List String) : IO UInt32 := do
  let s ← Voicemail.Program.surroundings args
  match Voicemail.CommandLine.plan s args with
  | .respond r => Voicemail.Program.respond r
  | .ask settings q => Voicemail.Program.ask s settings q
