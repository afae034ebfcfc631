import Voicemail.CommandLine.Menu
import Voicemail.Settings.Source
import Voicemail.Text.Numeral

/-!
# Queries

What the arguments of the program ask for. The switches before the command are those of the program
itself. A switch that shows a page wins over everything that is missing or wrong in the operands,
and the first such switch wins over the others.
-/

namespace Voicemail.CommandLine

/-- What is asked of the client. -/
inductive Query where
  | route (fields : List (String × String)) (protocol : Option String)
  | commands (protocol : Option String)
  | account (account : String)
  | defaultPin (identifier : String)
  | generatePin (policy : Option String) (length : Option Int)
  | drainEvents
  deriving DecidableEq, Repr

/-- Why reading arguments ends without a query. -/
inductive Ending where
  /-- A switch shows a page. -/
  | page (text : String)
  | usage (m : Manual) (e : UsageError)
  /-- A group was called without arguments. -/
  | bareGroup (m : Manual)

/-- The switches of the program itself. -/
structure Globals where
  json : Bool
  quiet : Bool
  verbose : Bool
  logJson : Bool
  sync : Bool
  config : Option String
  deriving DecidableEq, Repr

/-- The arguments of the program, up to those of the command that they name. -/
structure Start where
  globals : Globals
  command : Option (MainCommand × List String)
  deriving DecidableEq, Repr

namespace Manual

/-- The page that a switch shows, if it shows one. -/
def page? (m : Manual) (g : Given) : Option String :=
  if g.name = "help" then some m.help
  else if g.name = "examples" then some m.exampleText
  else if g.name = "version" then some versionText
  else none

/-- Reads the arguments of a command. -/
def read (m : Manual) (args : List String) : Except Ending Arguments := do
  let a ← (Arguments.read m.allSwitches (!m.isGroup) args).mapError (.usage m)
  match a.given.findSome? m.page? with
  | some text => throw (.page text)
  | none => return a

/-- Finds the command of a group that the first operand names. What names no command and looks like
a switch is read as one, in case it shows a page. -/
def choose {α : Type} (m : Manual) (all : List α) (name : α → String) :
    List String → Except Ending (Option (α × List String))
  | [] => .ok none
  | named :: rest =>
    match all.find? (name · = named) with
    | some c => .ok (some (c, rest))
    | none => do
      let _ ← m.read (named :: rest)
      throw (.usage m (.unknownCommand named (Text.closest named (all.map name))))

/-- Reads the arguments of a group below the program, up to those of its command. -/
def enter {α : Type} (m : Manual) (all : List α) (name : α → String) (args : List String) :
    Except Ending (α × List String) := do
  if args.isEmpty then throw (.bareGroup m)
  let a ← m.read args
  match ← m.choose all name a.operands with
  | some c => return c
  | none => throw (.usage m .missingCommand)

/-- The only operand of a command. -/
def single (m : Manual) (label : String) (a : Arguments) : Except Ending String :=
  match a.operands with
  | [] => .error (.usage m (.missingOperand label))
  | [item] => .ok item
  | _ :: extra => .error (.usage m (.extraOperands extra))

/-- Makes sure that a command has no operands. -/
def noOperands (m : Manual) (a : Arguments) : Except Ending Unit :=
  if a.operands.isEmpty then .ok () else .error (.usage m (.extraOperands a.operands))

end Manual

namespace Globals

/-- The switches of the program itself among those that were given. -/
def ofArguments (a : Arguments) : Globals :=
  { json := a.has "json", quiet := a.has "quiet", verbose := a.has "verbose"
    logJson := a.has "log-json", sync := a.has "sync", config := a.value? "config" }

/-- The switches as settings: each is one, whether it was given or not. -/
def settings (g : Globals) : List (String × Setting) :=
  [("json_output", .value (.bool g.json)), ("quiet", .value (.bool g.quiet)),
    ("verbose", .value (.bool g.verbose)), ("log_json", .value (.bool g.logJson)),
    ("sync", .value (.bool g.sync))]

end Globals

/-- Reads the arguments of the program up to those of its command. -/
def Start.read (args : List String) : Except Ending Start := do
  let a ← Manual.main.read args
  let command ← Manual.main.choose MainCommand.all MainCommand.name a.operands
  return ⟨.ofArguments a, command⟩

namespace Query

/-- A field of a status response out of an operand. -/
def field? (item : String) : Option (String × String) :=
  let (key, value) := Arguments.splitValue item.toList
  if key.isEmpty then none else value.map (key, ·)

/-- The fields of a status response out of operands; the last of a name wins. -/
def fields (items : List String) : Except UsageError (List (String × String)) := do
  let pairs ← items.mapM fun item =>
    match field? item with
    | some pair => .ok pair
    | none => .error (.notField Manual.fieldsLabel item)
  return Assoc.ofPairs pairs

/-- The length of a PIN. -/
def length? (value : Option String) : Except UsageError (Option Int) :=
  match value with
  | none => .ok none
  | some text =>
    match Text.readInt? text.toList with
    | some n => .ok (some n)
    | none => .error (.notInteger "--length" text)

/-- Reads the arguments of `route`. -/
def readRoute (args : List String) : Except Ending Query := do
  let a ← Manual.route.read args
  if a.operands.isEmpty then throw (.usage .route (.missingOperand Manual.fieldsLabel))
  let fields ← (fields a.operands).mapError (.usage .route)
  return .route fields (a.value? "protocol")

/-- Reads the arguments of `commands`. -/
def readCommands (args : List String) : Except Ending Query := do
  let a ← Manual.commandTable.read args
  Manual.commandTable.noOperands a
  return .commands (a.value? "protocol")

/-- Reads the arguments of `prefs`. -/
def readPrefs (args : List String) : Except Ending Query := do
  let a ← Manual.prefs.read args
  return .account (← Manual.prefs.single Manual.accountLabel a)

/-- Reads the arguments of a command about PINs. -/
def readPin : PinCommand → List String → Except Ending Query
  | .default, args => do
    let a ← Manual.defaultPin.read args
    return .defaultPin (← Manual.defaultPin.single Manual.identifierLabel a)
  | .generate, args => do
    let a ← Manual.generatePin.read args
    let length ← (length? (a.value? "length")).mapError (.usage .generatePin)
    Manual.generatePin.noOperands a
    return .generatePin (a.value? "policy") length

/-- Reads the arguments of a command about events. -/
def readEvents : EventsCommand → List String → Except Ending Query
  | .drain, args => do
    let a ← Manual.drain.read args
    Manual.drain.noOperands a
    return .drainEvents

/-- Reads the arguments of a command of the program. -/
def read : MainCommand → List String → Except Ending Query
  | .route, args => readRoute args
  | .commands, args => readCommands args
  | .prefs, args => readPrefs args
  | .pin, args => do
    let (c, rest) ← Manual.pin.enter PinCommand.all PinCommand.name args
    readPin c rest
  | .events, args => do
    let (c, rest) ← Manual.events.enter EventsCommand.all EventsCommand.name args
    readEvents c rest

end Query

end Voicemail.CommandLine
