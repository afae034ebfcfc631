import Voicemail.Event
import Voicemail.Routing

/-!
# Protocols

A protocol bundles everything in which the flavours of visual voicemail differ. `Protocol.omtp` is
the base protocol: activation and deactivation by message, no provisioning. `Protocol.vvm3` has no
activation message, cannot be deactivated, and sets up new users over a session.
-/

namespace Voicemail

/-- The requests that a client can send the carrier by message. -/
inductive Request where
  | activation
  | deactivation
  | status
  deriving DecidableEq, Repr

/-- The text of a request. -/
def Request.text : Request → String
  | .activation => "Activate"
  | .deactivation => "Deactivate"
  | .status => "STATUS"

/-- Which requests a message sender sends; it passes over the others. -/
inductive SenderStyle where
  | everything
  | statusOnly
  deriving DecidableEq, Repr

/-- Whether a sender sends a request. -/
def SenderStyle.sends : SenderStyle → Request → Bool
  | .everything, _ => true
  | .statusOnly, r => r = .status

/-- A flavour of visual voicemail. -/
structure Protocol where
  name : String
  classify : EventKind → Classification
  router : Router
  commands : CommandTable
  sender : SenderStyle
  supportsProvisioning : Bool
  supportsDeactivation : Bool
  /-- Whether the client asks for the status instead of sending an activation. -/
  activatesViaStatusRequest : Bool
  englishLanguageCode : String
  spanishLanguageCode : String

namespace Protocol

/-- The base protocol. -/
def omtp : Protocol :=
  { name := "omtp"
    classify := .base
    router := .standard
    commands := .base
    sender := .everything
    supportsProvisioning := false
    supportsDeactivation := true
    activatesViaStatusRequest := false
    englishLanguageCode := ""
    spanishLanguageCode := "" }

/-- The protocol with provisioning. Its language codes stand for standard prompts for the
subscriber and none for callers. -/
def vvm3 : Protocol :=
  { name := "vvm3"
    classify := .extended
    router := .standard
    commands :=
      { overrides :=
          [(.changeTuiPassword, "CHANGE_TUI_PWD PWD=\x7bnew_pin\x7d OLD_PWD=\x7bold_pin\x7d"),
           (.changeLanguage, "CHANGE_VM_LANG Lang=\x7blanguage\x7d"),
           (.closeNewUserTutorial, "CLOSE_NUT")]
        defaults := CommandTable.baseTemplates }
    sender := .statusOnly
    supportsProvisioning := true
    supportsDeactivation := false
    activatesViaStatusRequest := true
    englishLanguageCode := "5"
    spanishLanguageCode := "6" }

/-- Every protocol. -/
def all : List Protocol := [omtp, vvm3]

/-- The protocol with a name, in letters of either case. -/
def find (name : String) : Except Failure Protocol :=
  match all.find? fun p => p.name.toList = name.toList.map Char.toLower with
  | some p => .ok p
  | none => .error (.unknownProtocol name)

/-- The code of the language that a subscriber hears. -/
def languageCode (p : Protocol) (spanish : Bool) : String :=
  if spanish then p.spanishLanguageCode else p.englishLanguageCode

end Protocol

/-- Whether a locale tag such as `es_US` or `es-MX` names Spanish. -/
def isSpanishLocale (tag : Option String) : Bool :=
  match tag with
  | none => false
  | some tag =>
    let language := tag.toList.takeWhile fun c => c ≠ '-' && c ≠ '_' && c ≠ '.' && c ≠ '@'
    language.map Char.toLower = ['e', 's']

end Voicemail
