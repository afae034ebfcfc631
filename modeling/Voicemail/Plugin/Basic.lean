import Voicemail.Failure
import Voicemail.Log.Front
import Voicemail.Transcript

/-!
# Plugins

A plugin implements some of the hooks, and each call of it may fail. A class of plugins implements
hooks too, but a call of one lacks the plugin to work on. The registry also knows one plugin of its
own, the event log, which writes every event that it receives to the log: at the level of a warning
if the event is grave or the subscriber has to call the carrier, else as information.
-/

namespace Voicemail

/-- A plugin. -/
structure Plugin where
  /-- How the plugin names itself. -/
  label : String
  /-- The name it is registered under where none is given. -/
  className : String
  /-- The hooks it implements. -/
  hooks : List Hook
  /-- Whether its call with a number, counted from zero, fails. -/
  respond : Nat → Hook → List Json → Option Fault
  /-- How often it was called. -/
  calls : Nat

/-- A class of plugins. -/
structure PluginClass where
  /-- The name it is registered under where none is given. -/
  name : String
  /-- The name by which messages know its functions. -/
  owner : String
  /-- The hooks that its plugins implement. -/
  hooks : List Hook
  /-- The plugin that it makes, or the fault that keeps it from making one. -/
  make : Except Fault Plugin

/-- What is registered under a name. -/
inductive Member where
  /-- The event log, which writes to a front. -/
  | eventLog (front : LogFront)
  | plugin (p : Plugin)
  | class (c : PluginClass)

namespace Member

/-- Whether a member implements a hook. -/
def implements (h : Hook) : Member → Bool
  | .eventLog _ => true
  | .plugin p => p.hooks.contains h
  | .class c => c.hooks.contains h

/-- Whether a member is a class. -/
def isClass : Member → Bool
  | .class _ => true
  | _ => false

/-- Whether a severity makes an event a warning. A severity that has parts cannot be looked up. -/
def isGrave : Json → Except Failure Bool
  | .str s => .ok (s = "error" || s = "warning")
  | .arr _ => .error (.unhashable "list")
  | .obj _ => .error (.unhashable "dict")
  | _ => .ok false

/-- The record that the event log writes for an event with some detail. Every member of the detail
is a field of the record. -/
def eventRecord (front : LogFront) (context : LogContext) (account protocol event detail : Json) :
    Except Failure LogRecord :=
  match detail with
  | .obj members => do
    let grave ← isGrave ((members.lookup "severity").getD .null)
    let support := ((members.lookup "contact_support").getD .null).isTruthy
    let level := if grave || support then .warning else .info
    match front.clash? level ["vvm_event"] (members.map (·.1)) with
    | some m => throw (.misuse m)
    | none => pure ()
    return {
      level, logger := LogSource.eventLog.logger, plain := false, event := "vvm.event"
      fields := Assoc.setAll
        [("account_id", account), ("protocol", protocol), ("vvm_event", event)] members
      context }
  | v => .error (.noMember v.typeName "get")

/-- The record that the event log writes for a call. -/
def eventLogRecord (front : LogFront) (context : LogContext) :
    Hook → List Json → Except Failure LogRecord
  | .vvmEvent, [account, protocol, event, detail] =>
    eventRecord front context account protocol event detail
  | .postProvision, [account, protocol, action, outcome] => .ok {
      level := .info, logger := LogSource.eventLog.logger, plain := false
      event := "vvm.provisioned"
      fields := [("account_id", account), ("protocol", protocol), ("action", action),
        ("outcome", outcome)]
      context }
  | h, _ => .error (.missingHookArgument h.name)

/-- What is wrong with the call of a hook on a class: the first argument stands where the plugin
should, so the last one is missing. -/
def missingPlugin (owner : String) (h : Hook) : Misuse :=
  .missingArguments (owner ++ "." ++ h.name) (h.argumentNames.drop (h.argumentNames.length - 1))

/-- A call of a member: the member afterwards, what it did, and whether it failed. -/
def receive (context : LogContext) (h : Hook) (arguments : List Json) :
    Member → Member × Transcript × Except Failure Unit
  | .eventLog front =>
    match eventLogRecord front context h arguments with
    | .ok r => (.eventLog front, [.record r], .ok ())
    | .error e => (.eventLog front, [], .error e)
  | .plugin p =>
    let called : Member := .plugin { p with calls := p.calls + 1 }
    match p.respond p.calls h arguments with
    | none => (called, [.hook p.label h arguments], .ok ())
    | some f => (called, [.hook p.label h arguments], .error (.fault f))
  | .class c => (.class c, [], .error (.misuse (missingPlugin c.owner h)))

end Member

end Voicemail
