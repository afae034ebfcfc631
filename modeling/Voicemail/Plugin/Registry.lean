import Voicemail.Plugin.Basic
import Voicemail.Plugin.Relay

/-!
# The plugin registry

Plugins are registered under names, no name twice. A hook is called on the members that implement
it, the last registered first, until one fails. Installed packages contribute entry points; one of
them may name a class, which is registered itself until all are loaded, then taken out again and
replaced by a plugin that it makes, if it makes one. The event log is registered beside whatever is
installed.
-/

namespace Voicemail

/-- What an entry point gives when it is loaded. -/
inductive Loaded where
  | instance (p : Plugin)
  | class (c : PluginClass)

/-- An entry point of an installed package. -/
structure EntryPoint where
  group : String
  name : String
  load : Except Fault Loaded

/-- The registered members in the order of their registration. -/
structure Registry where
  members : List (String × Member) := []
  /-- Whether the entry points were loaded. -/
  isLoaded : Bool := false
  /-- Where the event log writes. -/
  front : LogFront := .bare

namespace Registry

/-- A registry with no member. -/
def empty : Registry := {}

/-- The group of the entry points of plugins. -/
def group : String := "vvmprov.plugins"

/-- The name of the event log. -/
def eventLogName : String := "event-log-builtin"

/-- The registered names. -/
def names (r : Registry) : List String := r.members.map (·.1)

/-- Registers a member under a name, if the name is free. -/
def add (name : String) (m : Member) (r : Registry) : Except Failure Registry :=
  if r.names.contains name then .error (.nameTaken name)
  else .ok { r with members := r.members ++ [(name, m)] }

/-- Registers a plugin, under the name of its class where no name is given. -/
def register (r : Registry) (p : Plugin) (name : String) : Except Failure Registry :=
  r.add (if name.isEmpty then p.className else name) (.plugin p)

/-- The arguments of a hook out of an event's payload. -/
def arguments (h : Hook) (payload : List (String × Json)) : Except Failure (List Json) :=
  h.argumentNames.mapM fun name =>
    match payload.lookup name with
    | some v => .ok v
    | none => .error (.missingHookArgument name)

/-- The kind of the event log, as messages name it. -/
def eventLogKind : String := "EventLogPlugin"

/-- The record that the event log writes when it is called by itself with named arguments. -/
def callEventLog (front : LogFront) (context : LogContext) (h : Hook)
    (named : List (String × Json)) : Except Failure LogRecord :=
  let callee := eventLogKind ++ "." ++ h.name
  match Misuse.ofNames callee h.argumentNames [] (named.map (·.1)) with
  | some m => .error (.misuse m)
  | none => do Member.eventLogRecord front context h (← arguments h named)

/-- Calls a hook on members in the order of the list, until one fails. -/
def callMembers (context : LogContext) (h : Hook) (payload : List (String × Json)) :
    List (String × Member) → List (String × Member) × Transcript × Except Failure Unit
  | [] => ([], [], .ok ())
  | (name, m) :: rest =>
    if m.implements h then
      match arguments h payload with
      | .error e => ((name, m) :: rest, [], .error e)
      | .ok values =>
        match m.receive context h values with
        | (m, entries, .error e) => ((name, m) :: rest, entries, .error e)
        | (m, entries, .ok ()) =>
          let (rest, more, result) := callMembers context h payload rest
          ((name, m) :: rest, entries ++ more, result)
    else
      let (rest, more, result) := callMembers context h payload rest
      ((name, m) :: rest, more, result)

/-- Calls a hook: the registry afterwards, what the members did, and whether one failed. -/
def call (context : LogContext) (h : Hook) (payload : List (String × Json)) (r : Registry) :
    Registry × Transcript × Except Failure Unit :=
  if Assoc.contains Misuse.subject payload then
    (r, [], .error (.misuse (.repeatedArgument "HookCaller.__call__" Misuse.subject)))
  else
    let (members, entries, result) := callMembers context h payload r.members.reverse
    ({ r with members := members.reverse }, entries, result)

/-- Calls what a name stands for: a hook, or a member of the relay, or nothing. The payload has to
name the arguments. -/
def callNamed (context : LogContext) (name : String) (payload : Json) (r : Registry) :
    Registry × Transcript × Except Failure Unit :=
  match Hook.ofName? name, Relay.member? name, payload with
  | none, none, _ => (r, [], .ok ())
  | some h, _, .obj named => r.call context h named
  | none, some m, .obj named => (r, [], (m.call name (named.map (·.1))).mapError .misuse)
  | _, _, v => (r, [], .error (.misuse (.notMapping (Relay.shown name) v.typeName)))

/-- What loading entry points leaves behind. -/
structure Discovery where
  registry : Registry
  /-- How many entry points were loaded. -/
  found : Nat
  /-- The names whose class made no plugin. -/
  dropped : List String
  /-- What stopped the loading, if anything did. -/
  stopped : Option Failure

/-- Registers what an entry point gave under its name. A class without a name has its own. -/
def addLoaded (name : String) (r : Registry) : Loaded → Except Failure Registry
  | .instance p => r.add name (.plugin p)
  | .class c => r.add (if name.isEmpty then c.name else name) (.class c)

/-- Loads the entry points of the plugin group whose names are not taken, until one fails; the
result is the registry then, how many were loaded, and what stopped the loading. No member has the
empty name, so it is never taken. -/
def loadAll : List EntryPoint → Registry → Registry × Nat × Option Failure
  | [], r => (r, 0, none)
  | e :: rest, r =>
    if e.group ≠ group || r.names.contains e.name then loadAll rest r
    else
      match e.load.mapError Failure.fault >>= r.addLoaded e.name with
      | .error f => (r, 0, some f)
      | .ok r =>
        let (r, n, stopped) := loadAll rest r
        (r, n + 1, stopped)

/-- Takes the classes among members out and puts the plugins that they make at the end. -/
def settle (members : List (String × Member)) : List (String × Member) :=
  let made := members.filterMap fun
    | (name, .class c) =>
      match c.make with
      | .ok p => some (name, .plugin p)
      | .error _ => none
    | _ => none
  members.filter (fun (_, m) => !m.isClass) ++ made

/-- The names of the classes among members that make no plugin. -/
def barren (members : List (String × Member)) : List String :=
  members.filterMap fun
    | (name, .class c) =>
      match c.make with
      | .ok _ => none
      | .error _ => some name
    | _ => none

/-- Loads the installed plugins and the event log. -/
def discover (installed : List EntryPoint) (r : Registry) : Discovery :=
  match loadAll installed r with
  | (r, found, some f) => ⟨r, found, [], some f⟩
  | (r, found, none) =>
    let members := settle r.members
    let members :=
      if (members.map (·.1)).contains eventLogName then members
      else members ++ [(eventLogName, .eventLog r.front)]
    ⟨{ r with members, isLoaded := true }, found, barren r.members, none⟩

end Registry

/-- The records that loading entry points writes. -/
def Registry.Discovery.records (context : LogContext) (d : Discovery) : List LogRecord :=
  let plain (level : LogLevel) (event : String) (failure : Option (String × String)) :
      LogRecord :=
    { level, logger := LogSource.plugins.logger, plain := true, event, fields := [], context,
      failure }
  d.dropped.map (fun name =>
      plain .warning s!"Dropping plugin {name}: constructor failed" none) ++
    (if d.stopped.isSome then []
     else [plain .debug s!"Loaded {d.found} entry-point plugin(s)" none])

end Voicemail
