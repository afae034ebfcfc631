import Voicemail.Network

/-!
# Carrier sessions

A session sends commands from the table of its protocol and takes the server's answers. Once closed
it stays closed: later commands fail before anything is sent, and a second close does nothing. A
session on a network is closed before the network is released.
-/

namespace Voicemail

/-- What became of a change of the PIN. -/
inductive PinChange where
  | success
  | failure
  deriving DecidableEq, Repr

/-- The name of an outcome. -/
def PinChange.name : PinChange → String
  | .success => "success"
  | .failure => "failure"

namespace Client

/-- Whether a response begins, after blanks, with `OK` in letters of either case. -/
def isAccepted (response : String) : Bool :=
  match Text.trim response.toList with
  | 'O' :: 'K' :: _ | 'O' :: 'k' :: _ | 'o' :: 'K' :: _ | 'o' :: 'k' :: _ => true
  | _ => false

/-- A response as a message shows it. -/
def trimmed (response : String) : String := String.ofList (Text.trim response.toList)

/-- Opens a session with the commands of a table. -/
def openSession (p : Platform) (table : CommandTable) (network account : String) :
    ClientM Unit := do
  perform p (.openSession network account)
  modify fun c => { c with session := some table }

/-- Sends a command; the result is the server's response. -/
def execute (p : Platform) (command : Command) (params : List (String × Json)) :
    ClientM String := do
  match (← get).session with
  | none => throw (.sessionClosed command)
  | some table =>
    match table.render command params with
    | .error e => throw (.command e)
    | .ok text => perform p (.execute text)

/-- Sets the language that the subscriber hears. -/
def setLanguage (p : Platform) (code : String) : ClientM Unit := do
  let response ← execute p .changeLanguage [("language", .str code)]
  unless isAccepted response do
    throw (.languageRejected (trimmed response))

/-- Changes the PIN. That the server refuses is an outcome and no failure. -/
def changePin (p : Platform) (new old : String) : ClientM PinChange := do
  let response ← execute p .changeTuiPassword [("new_pin", .str new), ("old_pin", .str old)]
  if isAccepted response then
    return .success
  say .session .debug s!"PIN change rejected: {trimmed response}"
  return .failure

/-- Closes the tutorial for new users. -/
def closeTutorial (p : Platform) : ClientM Unit := do
  let response ← execute p .closeNewUserTutorial []
  unless isAccepted response do
    throw (.tutorialRejected (trimmed response))

/-- Closes the session if it is open. It counts as closed also if the platform faults. -/
def closeSession (p : Platform) : ClientM Unit := do
  if (← get).session.isSome then
    modify fun c => { c with session := none }
    perform p .closeSession

/-- Works in a session on a network. -/
def withSession {α : Type} (p : Platform) (table : CommandTable) (account : String)
    (limit : TimeLimit) (body : String → ClientM α) : ClientM α :=
  withNetwork p account limit fun network => do
    openSession p table network account
    ensuring (body network) (closeSession p)

end Client

end Voicemail
