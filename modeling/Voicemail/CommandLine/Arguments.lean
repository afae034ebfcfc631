import Voicemail.CommandLine.Usage
import Voicemail.Text.Similar

/-!
# Arguments

Arguments are switches and operands. A switch has a name after two dashes, and may have a letter
after one; letters can stand together. Its value, if it takes one, is what follows the equals sign,
the rest of its letters, or the next argument whatever it looks like. Two dashes alone end the
switches. A command may take switches and operands mixed; a group of commands takes its switches
first, since what follows its first operand belongs to the command.
-/

namespace Voicemail.CommandLine

/-- A switch that a command takes. -/
structure Switch where
  letter : Option Char := none
  name : String
  /-- What its value is called, if it takes one. -/
  value : Option String := none
  about : String
  deriving DecidableEq, Repr

/-- The name of a switch as it is written. -/
def Switch.longName (s : Switch) : String := "--" ++ s.name

/-- The letter of a switch as it is written. -/
def letterName (c : Char) : String := String.ofList ['-', c]

/-- A switch that was given. -/
structure Given where
  name : String
  value : Option String
  deriving DecidableEq, Repr

/-- The arguments of a command. -/
structure Arguments where
  /-- The switches in the order in which they were given. -/
  given : List Given
  operands : List String
  deriving DecidableEq, Repr

namespace Arguments

/-- No arguments. -/
def empty : Arguments := ⟨[], []⟩

/-- Whether a switch was given. -/
def has (a : Arguments) (name : String) : Bool := a.given.any (·.name = name)

/-- The value that was given last for a switch. -/
def value? (a : Arguments) (name : String) : Option String :=
  (a.given.reverse.find? (·.name = name)).bind (·.value)

/-- A switch with a value: the one that is attached to it, or else the next argument. -/
def takeValue (s : Switch) (written : String) (attached : Option String) (rest : List String) :
    Except UsageError (Given × List String) :=
  match attached, rest with
  | some v, _ => .ok (⟨s.name, some v⟩, rest)
  | none, v :: rest => .ok (⟨s.name, some v⟩, rest)
  | none, [] => .error (.missingValue written)

/-- Reads letters that stand together. -/
def readLetters (switches : List Switch) :
    List Char → List String → Except UsageError (List Given × List String)
  | [], rest => .ok ([], rest)
  | c :: cs, rest =>
    match switches.find? (·.letter = some c) with
    | none => .error (.unknownSwitch (letterName c) [])
    | some s =>
      if s.value.isSome then do
        let attached := if cs.isEmpty then none else some (String.ofList cs)
        let (given, rest) ← takeValue s (letterName c) attached rest
        return ([given], rest)
      else do
        let (more, rest) ← readLetters switches cs rest
        return (⟨s.name, none⟩ :: more, rest)

/-- The name before the equals sign of an argument, and the value after it. -/
def splitValue (s : List Char) : String × Option String :=
  let name := s.takeWhile (· ≠ '=')
  match s.drop name.length with
  | _ :: value => (String.ofList name, some (String.ofList value))
  | [] => (String.ofList name, none)

/-- Reads an argument that begins with a dash. -/
def readSwitch (switches : List Switch) (arg : List Char) (rest : List String) :
    Except UsageError (List Given × List String) :=
  let (name, attached) := splitValue arg
  match switches.find? (·.longName = name) with
  | some s =>
    if s.value.isSome then (takeValue s name attached rest).map fun (g, rest) => ([g], rest)
    else if attached.isSome then .error (.unexpectedValue name)
    else .ok ([⟨s.name, none⟩], rest)
  | none =>
    match arg with
    | '-' :: '-' :: _ =>
      .error (.unknownSwitch name (Text.closest name (switches.map (·.longName))))
    | _ => readLetters switches arg.tail rest

/-- Reads arguments, with at most as many steps as the fuel. -/
def readAux (switches : List Switch) (mixed : Bool) :
    Nat → List String → Except UsageError Arguments
  | 0, rest => .ok ⟨[], rest⟩
  | _ + 1, [] => .ok empty
  | fuel + 1, arg :: rest =>
    match arg.toList with
    | ['-', '-'] => .ok ⟨[], rest⟩
    | '-' :: c :: cs => do
      let (given, rest) ← readSwitch switches ('-' :: c :: cs) rest
      let a ← readAux switches mixed fuel rest
      return { a with given := given ++ a.given }
    | _ =>
      if mixed then do
        let a ← readAux switches mixed fuel rest
        return { a with operands := arg :: a.operands }
      else .ok ⟨[], arg :: rest⟩

/-- Reads the arguments of a command that takes some switches; `mixed` tells whether they may stand
among the operands. -/
def read (switches : List Switch) (mixed : Bool) (args : List String) :
    Except UsageError Arguments :=
  readAux switches mixed args.length args

end Arguments

end Voicemail.CommandLine
