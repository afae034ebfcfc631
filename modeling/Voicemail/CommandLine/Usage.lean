import Voicemail.Text.Quoted

/-!
# Usage errors

What can be wrong with the arguments of a command, by cause. Where a name is unknown, the names that
are like it are suggested.
-/

namespace Voicemail.CommandLine

/-- What is wrong with the arguments of a command. -/
inductive UsageError where
  | unknownSwitch (name : String) (similar : List String)
  | unknownCommand (name : String) (similar : List String)
  /-- A switch with a value stands last. -/
  | missingValue (name : String)
  /-- A switch without a value has one. -/
  | unexpectedValue (name : String)
  /-- The value of a switch is no integer. -/
  | notInteger (name value : String)
  | missingCommand
  | missingOperand (label : String)
  /-- An operand is not a key and a value. -/
  | notField (label item : String)
  | extraOperands (items : List String)
  deriving DecidableEq, Repr

namespace UsageError

/-- The question whether one of some names was meant. -/
def suggestion (similar : List String) : String :=
  match similar with
  | [] => ""
  | [name] => s!" Did you mean {Text.quoted name}?"
  | names =>
    let names := names.mergeSort fun a b => a ≤ b
    let list := ", ".intercalate (names.map Text.quoted)
    s!" (Did you mean one of: {list}?)"

/-- The wording of a usage error. -/
def message : UsageError → String
  | .unknownSwitch name similar => s!"No such option {Text.quoted name}.{suggestion similar}"
  | .unknownCommand name similar => s!"No such command {Text.quoted name}.{suggestion similar}"
  | .missingValue name => s!"Option {Text.quoted name} requires an argument."
  | .unexpectedValue name => s!"Option {Text.quoted name} does not take a value."
  | .notInteger name value =>
    s!"Invalid value for '{name}': {Text.quoted value} is not a valid integer."
  | .missingCommand => "Missing command."
  | .missingOperand label => s!"Missing argument '{label}'."
  | .notField label item =>
    s!"Invalid value for '{label}': expected KEY=VALUE, got {Text.quoted item}"
  | .extraOperands items =>
    let list := " ".intercalate items
    let noun := if items.length = 1 then "argument" else "arguments"
    s!"Got unexpected extra {noun} ({list})"

/-- Whether the usage of the command is told before the error. -/
def tellsUsage : UsageError → Bool
  | .missingValue _ | .unexpectedValue _ => false
  | _ => true

end UsageError

end Voicemail.CommandLine
