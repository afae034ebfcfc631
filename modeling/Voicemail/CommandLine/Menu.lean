import Voicemail.CommandLine.Manual

/-!
# The commands

The commands of the program and their manuals.
-/

namespace Voicemail.CommandLine

/-- The commands of the program. -/
inductive MainCommand where
  | commands
  | events
  | pin
  | prefs
  | route
  deriving DecidableEq, Repr

/-- The commands about PINs. -/
inductive PinCommand where
  | default
  | generate
  deriving DecidableEq, Repr

/-- The commands about events. -/
inductive EventsCommand where
  | drain
  deriving DecidableEq, Repr

namespace Manual

/-- The name of the program. -/
def program : String := "vvmprov"

/-- What the program says about its version. -/
def versionText : String := program ++ ", version 0.3.0"

/-- The switch that chooses the protocol. -/
def protocolSwitch : Switch :=
  { name := "protocol", value := some "TEXT"
    about := "Protocol variant (default from config)." }

/-- What the fields of a status response are called. -/
def fieldsLabel : String := "FIELDS..."

/-- What an account is called. -/
def accountLabel : String := "ACCOUNT_ID"

/-- What an identifier is called. -/
def identifierLabel : String := "IDENTIFIER"

/-- The manual of `route`. -/
def route : Manual :=
  { path := program ++ " route"
    operands := [fieldsLabel]
    about := "Show the provisioning action for a status response given as KEY=VALUE fields."
    switches := [protocolSwitch]
    examples := [
      "vvmprov route st=N rc=0 u=15551234@example.com",
      "vvmprov route st=U rc=2",
      "vvmprov --json route st=B --protocol vvm3"] }

/-- The manual of `commands`. -/
def commandTable : Manual :=
  { path := program ++ " commands"
    about := "Show the effective session command templates."
    switches := [protocolSwitch]
    examples := ["vvmprov commands", "vvmprov commands --protocol omtp"] }

/-- The manual of `prefs`. -/
def prefs : Manual :=
  { path := program ++ " prefs"
    operands := [accountLabel]
    about := "Show stored preferences for an account (secrets masked)."
    switches := []
    examples := ["vvmprov prefs sim-1", "vvmprov --json prefs sim-1"] }

/-- The manual of `pin default`. -/
def defaultPin : Manual :=
  { path := program ++ " pin default"
    operands := [identifierLabel]
    about := "Derive the carrier default PIN from an IMAP user name."
    switches := [] }

/-- The manual of `pin generate`. -/
def generatePin : Manual :=
  { path := program ++ " pin generate"
    about := "Generate a random numeric PIN."
    switches := [
      { name := "policy", value := some "TEXT", about := "PIN length policy as MIN-MAX." },
      { name := "length", value := some "INTEGER"
        about := "Exact length (overrides --policy)." }] }

/-- The manual of `events drain`. -/
def drain : Manual :=
  { path := program ++ " events drain"
    about := "Replay pending and failed events through the registered plugins."
    switches := [] }

end Manual

namespace PinCommand

/-- Every command about PINs, by name. -/
def all : List PinCommand := [.default, .generate]

/-- The name of a command. -/
def name : PinCommand → String
  | .default => "default"
  | .generate => "generate"

/-- The manual of a command. -/
def manual : PinCommand → Manual
  | .default => .defaultPin
  | .generate => .generatePin

end PinCommand

namespace EventsCommand

/-- Every command about events, by name. -/
def all : List EventsCommand := [.drain]

/-- The name of a command. -/
def name : EventsCommand → String
  | .drain => "drain"

/-- The manual of a command. -/
def manual : EventsCommand → Manual
  | .drain => .drain

end EventsCommand

namespace Manual

/-- What may follow the switches of a group. -/
def groupOperands : List String := ["COMMAND", "[ARGS]..."]

/-- The manual of `pin`. -/
def pin : Manual :=
  { path := program ++ " pin"
    operands := groupOperands
    about := "Derive and generate voicemail PINs."
    switches := []
    examples := [
      "vvmprov pin default 15551234@example.com",
      "vvmprov pin generate",
      "vvmprov pin generate --policy 4-8",
      "vvmprov pin generate --length 10"]
    commands := PinCommand.all.map fun c => (c.name, c.manual.about) }

/-- The manual of `events`. -/
def events : Manual :=
  { path := program ++ " events"
    operands := groupOperands
    about := "Inspect and replay provisioning events."
    switches := []
    examples := ["vvmprov events drain", "vvmprov --json events drain"]
    commands := EventsCommand.all.map fun c => (c.name, c.manual.about) }

end Manual

namespace MainCommand

/-- Every command of the program, by name. -/
def all : List MainCommand := [.commands, .events, .pin, .prefs, .route]

/-- The name of a command. -/
def name : MainCommand → String
  | .commands => "commands"
  | .events => "events"
  | .pin => "pin"
  | .prefs => "prefs"
  | .route => "route"

/-- The manual of a command. -/
def manual : MainCommand → Manual
  | .commands => .commandTable
  | .events => .events
  | .pin => .pin
  | .prefs => .prefs
  | .route => .route

end MainCommand

namespace Manual

/-- The manual of the program. -/
def main : Manual :=
  { path := program
    operands := ["[COMMAND]", "[ARGS]..."]
    about := "Visual voicemail provisioning utility."
    switches := [
      { name := "version", about := "Show the version and exit." },
      { name := "json", about := "Structured JSON output." },
      { letter := some 'q', name := "quiet", about := "Minimal output." },
      { letter := some 'v', name := "verbose", about := "Detailed output with debug info." },
      { name := "log-json", about := "Structured JSON log output to stderr." },
      { letter := some 'c', name := "config", value := some "TEXT"
        about := "Override config file path." },
      { name := "sync", about := "Force synchronous event dispatch." }]
    commands := MainCommand.all.map fun c => (c.name, c.manual.about) }

end Manual

end Voicemail.CommandLine
