import Voicemail.Failure
import Voicemail.Hook

/-!
# The relay

Hooks are called by their names on a relay. The relay has members of its own beside the hooks, and
an event under the name of one of them calls that member, whatever comes of it.
-/

namespace Voicemail.Relay

/-- A member of the relay that is no hook. -/
inductive Member where
  /-- A value. -/
  | data (type : String)
  /-- What makes a relay, without any argument. -/
  | constructor
  /-- An operator, with how many operands it takes. -/
  | operator (operands : Nat)
  /-- A function, by the name that messages know it by, with how many arguments it takes. -/
  | function (callee : String) (arguments : Nat)
  /-- What makes an object of a kind that has to be given. -/
  | allocator
  /-- What takes an object apart, which a relay does not allow. -/
  | reduction
  deriving DecidableEq, Repr

/-- The name of the relay's kind. -/
def kindName : String := "HookRelay"

/-- A function of the relay by its full name. -/
def qualified (name : String) : String := kindName ++ "." ++ name

/-- The member of the relay that a name stands for, if it stands for one. -/
def member? (name : String) : Option Member :=
  if ["__doc__", "__module__"].contains name then some (.data "str")
  else if name = "__dict__" then some (.data "dict")
  else if name = "__slots__" then some (.data "tuple")
  else if name = "__final__" then some (.data "bool")
  else if ["__class__", "__init__"].contains name then some .constructor
  else if ["__hash__", "__repr__", "__str__"].contains name then some (.operator 0)
  else if ["__delattr__", "__eq__", "__ge__", "__getattribute__", "__gt__", "__le__", "__lt__",
    "__ne__"].contains name then some (.operator 1)
  else if name = "__setattr__" then some (.operator 2)
  else if ["__dir__", "__getstate__", "__init_subclass__", "__sizeof__"].contains name then
    some (.function (qualified name) 0)
  else if name = "__subclasshook__" then some (.function name 0)
  else if ["__format__", "__reduce_ex__"].contains name then some (.function (qualified name) 1)
  else if name = "__new__" then some .allocator
  else if name = "__reduce__" then some .reduction
  else none

/-- How a member of the relay, or else a hook, is shown as what is called. -/
def shown (name : String) : String :=
  match member? name with
  | none => "<HookCaller " ++ Text.quoted name ++ ">"
  | some .constructor =>
    "pluggy._hooks." ++ (if name = "__class__" then kindName else qualified name) ++ "()"
  | some (.operator _) | some .allocator => "object." ++ name ++ "()"
  | some _ => qualified name ++ "()"

/-- Calls a member of the relay with named arguments. -/
def Member.call (name : String) (names : List String) : Member → Except Misuse Unit
  | .data type => .error (.notCallable type)
  | .constructor =>
    match Misuse.ofNames (qualified "__init__") [] [] names with
    | some e => .error e
    | none => .ok ()
  | .operator operands =>
    if !names.isEmpty then .error (.namedArguments ("wrapper " ++ name))
    else if operands = 0 then .ok ()
    else .error (.missingOperands operands)
  | .function callee arguments =>
    if !names.isEmpty then .error (.namedArguments callee)
    else if arguments = 0 then .ok ()
    else .error (.missingOnly callee)
  | .allocator => .error (.missingSubject "object.__new__")
  | .reduction =>
    if names.isEmpty then .error .notReducible
    else .error (.namedArguments (qualified name))

end Voicemail.Relay
