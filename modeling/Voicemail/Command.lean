import Voicemail.Misuse
import Voicemail.Template.Basic

/-!
# Session commands

Commands are addressed by their purpose and written from templates. A table has the default
templates of the base protocol and the ones that a carrier's dialect puts in their place.
-/

namespace Voicemail

/-- The commands of a carrier session. -/
inductive Command where
  | changePassword
  | changeTuiPassword
  | changeLanguage
  | closeNewUserTutorial
  deriving DecidableEq, Repr

namespace Command

/-- Every command, in the order in which tables list them. -/
def all : List Command :=
  [.changePassword, .changeTuiPassword, .changeLanguage, .closeNewUserTutorial]

/-- The identifier of a command. -/
def name : Command → String
  | .changePassword => "change_password"
  | .changeTuiPassword => "change_tui_password"
  | .changeLanguage => "change_vm_language"
  | .closeNewUserTutorial => "close_new_user_tutorial"

/-- The command that an identifier names. -/
def ofName? (s : String) : Option Command := all.find? (·.name = s)

/-- How a message about a command without a template shows it. -/
def inspect (c : Command) : String :=
  "<CommandId." ++ c.name.toUpper ++ ": " ++ Text.quoted c.name ++ ">"

end Command

/-- Command templates, with those that override the defaults. -/
structure CommandTable where
  overrides : List (Command × String)
  defaults : List (Command × String)
  deriving DecidableEq, Repr

namespace CommandTable

/-- The templates of the base protocol. -/
def baseTemplates : List (Command × String) :=
  [(.changePassword, "XCHANGE_PWD PWD=\x7bnew_pin\x7d OLD_PWD=\x7bold_pin\x7d"),
   (.changeTuiPassword, "XCHANGE_TUI_PWD PWD=\x7bnew_pin\x7d OLD_PWD=\x7bold_pin\x7d"),
   (.changeLanguage, "XCHANGE_VM_LANG LANG=\x7blanguage\x7d"),
   (.closeNewUserTutorial, "XCLOSE_NUT")]

/-- The table of the base protocol. -/
def base : CommandTable := ⟨[], baseTemplates⟩

/-- The template of a command: the override if there is one, else the default. -/
def template? (t : CommandTable) (c : Command) : Option String :=
  t.overrides.lookup c <|> t.defaults.lookup c

end CommandTable

/-- Why a command cannot be written. -/
inductive CommandError where
  | noTemplate (c : Command)
  /-- A parameter has the name of what is asked for the command. -/
  | misuse (m : Misuse)
  | template (e : Template.Error)
  deriving DecidableEq, Repr

/-- The wording of an error. -/
def CommandError.message : CommandError → String
  | .noTemplate c => c.inspect
  | .misuse m => m.message
  | .template e => e.message

namespace CommandTable

/-- The template of a command, which a table may lack. -/
def template (t : CommandTable) (c : Command) : Except CommandError String :=
  match t.template? c with
  | some s => .ok s
  | none => .error (.noTemplate c)

/-- The names that no parameter may have, since the call for a command uses them itself. -/
def ownNames : List String := [Misuse.subject, "command"]

/-- What is wrong with the names of parameters, if anything is. -/
def misuse? (names : List String) : Option Misuse :=
  (names.find? ownNames.contains).map (.repeatedArgument "CommandTable.render")

/-- A command with its parameters put in. -/
def render (t : CommandTable) (c : Command) (params : List (String × Json)) :
    Except CommandError String := do
  match misuse? (params.map (·.1)) with
  | some m => throw (.misuse m)
  | none => pure ()
  let s ← t.template c
  (Template.render s params).mapError .template

/-- The effective template of every command. -/
def toPairs (t : CommandTable) : Except CommandError (List (String × String)) :=
  Command.all.mapM fun c => do return (c.name, ← t.template c)

end CommandTable

end Voicemail
