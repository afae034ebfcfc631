import Voicemail.Text.Quoted

/-!
# Misuse of what is called

A call by names can be at odds with what it calls: an argument is given twice, or is not taken, or
is missing, or there is nothing to call. A message names what was called by its full name.
-/

namespace Voicemail

/-- How a call is at odds with what it calls. -/
inductive Misuse where
  /-- What was called is a value. -/
  | notCallable (type : String)
  /-- An argument that has a value already is named. -/
  | repeatedArgument (callee argument : String)
  /-- A name is given twice. -/
  | repeatedName (callee argument : String)
  /-- No argument has the name. -/
  | unexpectedArgument (callee argument : String)
  /-- Arguments have no value. -/
  | missingArguments (callee : String) (arguments : List String)
  /-- The named arguments are not given as a mapping. -/
  | notMapping (shown type : String)
  /-- Arguments may not be named. -/
  | namedArguments (callee : String)
  /-- An operator got none of its operands. -/
  | missingOperands (count : Nat)
  /-- The one argument is missing. -/
  | missingOnly (callee : String)
  /-- There is nothing to work on. -/
  | missingSubject (callee : String)
  /-- The object cannot be taken apart. -/
  | notReducible
  /-- A place in a text is not given by an integer. -/
  | placeType
  deriving DecidableEq, Repr

namespace Misuse

/-- The argument that what is worked on always is; it has its value before a call names any. -/
def subject : String := "self"

/-- Names in a sentence: a comma after each, from three on, and `and` before the last. -/
def sentence (names : List String) : String :=
  match names.map Text.quoted with
  | [] => ""
  | [a] => a
  | [a, b] => a ++ " and " ++ b
  | quoted => ", ".intercalate quoted.dropLast ++ ", and " ++ quoted.getLastD ""

/-- The wording of a misuse. -/
def message : Misuse → String
  | .notCallable type => s!"'{type}' object is not callable"
  | .repeatedArgument callee argument =>
    s!"{callee}() got multiple values for argument '{argument}'"
  | .repeatedName callee argument =>
    s!"{callee}() got multiple values for keyword argument '{argument}'"
  | .unexpectedArgument callee argument =>
    s!"{callee}() got an unexpected keyword argument '{argument}'"
  | .missingArguments callee arguments =>
    let noun := if arguments.length = 1 then "argument" else "arguments"
    s!"{callee}() missing {arguments.length} required positional {noun}: {sentence arguments}"
  | .notMapping shown type => s!"{shown} argument after ** must be a mapping, not {type}"
  | .namedArguments callee => s!"{callee}() takes no keyword arguments"
  | .missingOperands 1 => "expected 1 argument, got 0"
  | .missingOperands count => s!" expected {count} arguments, got 0"
  | .missingOnly callee => s!"{callee}() takes exactly one argument (0 given)"
  | .missingSubject callee => s!"{callee}(): not enough arguments"
  | .notReducible =>
    "a class that defines __slots__ without defining __getstate__ cannot be pickled"
  | .placeType => "slice indices must be integers or None or have an __index__ method"

/-- What is wrong with the names of a call on something that needs some arguments and takes others,
if anything is: the first name that does not fit, or else what is missing. -/
def ofNames (callee : String) (needed others names : List String) : Option Misuse :=
  let unfit := names.findSome? fun n =>
    if n = subject then some (.repeatedArgument callee n)
    else if needed.contains n || others.contains n then none
    else some (.unexpectedArgument callee n)
  unfit <|>
    match needed.filter fun n => !names.contains n with
    | [] => none
    | missing => some (.missingArguments callee missing)

end Misuse

end Voicemail
