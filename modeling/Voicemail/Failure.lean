import Voicemail.Command
import Voicemail.Fault
import Voicemail.Issue
import Voicemail.Json.Nesting
import Voicemail.Misuse
import Voicemail.TimeLimit

/-!
# Failures of the client

Everything that can stop an operation of the client, by cause. A fault of a collaborator passes
through unchanged. The three predicates are the ones by which an operation decides what it handles.
-/

namespace Voicemail

/-- What can be wrong with a path. -/
inductive PathFault where
  | missing
  | exists
  | notDirectory
  | nameTooLong
  deriving DecidableEq, Repr

/-- The number of a fault in the system's count. -/
def PathFault.number : PathFault → Nat
  | .missing => 2
  | .exists => 17
  | .notDirectory => 20
  | .nameTooLong => 36

/-- The wording of a fault. -/
def PathFault.text : PathFault → String
  | .missing => "No such file or directory"
  | .exists => "File exists"
  | .notDirectory => "Not a directory"
  | .nameTooLong => "File name too long"

/-- Why an operation of the client stopped. -/
inductive Failure where
  /-- A collaborator failed. -/
  | fault (f : Fault)
  /-- The platform has no network for an account. -/
  | noNetwork (account : String)
  /-- The platform did not answer in time. -/
  | networkTimedOut (account : String) (limit : TimeLimit)
  /-- A time limit is longer than any clock can wait. -/
  | beyondClock (limit : TimeLimit)
  /-- The platform could not take the request for a network. -/
  | networkRefused (account reason : String)
  /-- A command was given after the session was closed. -/
  | sessionClosed (c : Command)
  /-- The server rejected the language. -/
  | languageRejected (response : String)
  /-- The server did not close the tutorial. -/
  | tutorialRejected (response : String)
  /-- A command could not be written. -/
  | command (e : CommandError)
  /-- No rule says what to do about a provisioning status. -/
  | unhandledStatus (status : String)
  /-- The protocol has no provisioning. -/
  | provisioningUnsupported (protocol : String)
  /-- No protocol has the name. -/
  | unknownProtocol (name : String)
  /-- A PIN cannot have the length. -/
  | invalidPinLength (length : Int)
  /-- A value names no member of an enumeration. -/
  | notAMember (shown enumeration : String)
  /-- An input does not have the form it has to have. -/
  | invalid (issues : List Issue)
  /-- A hook was called without an argument that a plugin takes. -/
  | missingHookArgument (name : String)
  /-- A call is at odds with what it calls. -/
  | misuse (m : Misuse)
  /-- A value has no such member. -/
  | noMember (type name : String)
  /-- A value cannot be looked up in a set. -/
  | unhashable (type : String)
  /-- A number does not fit into a column of the journal. -/
  | integerRange
  /-- A plugin is registered under the name. -/
  | nameTaken (name : String)
  /-- The event worker needs at least one thread. -/
  | noWorkers
  /-- An environment variable does not hold a document for its section. -/
  | environmentSection (field : String)
  /-- A configuration file could not be read. -/
  | malformedConfig (path reason : String)
  /-- An integer of a configuration file has too many digits. -/
  | tooManyDigits (count : Nat)
  /-- A configuration file nests too deep. -/
  | configTooDeep
  /-- The document of an environment variable nests too deep, and where it does a container
  opens. -/
  | sectionTooDeep (opened : Json.Container)
  /-- A directory cannot be made. -/
  | badPath (f : PathFault) (shown : String)
  /-- A path has a character that no name can have. -/
  | nullInPath
  /-- No store can be opened at its place. -/
  | unreachableStore
  /-- What stands at the place of a store is none. -/
  | notAStore
  /-- A report holds a value of too many levels. -/
  | reportTooDeep
  /-- A configuration file is not text in UTF-8. -/
  | undecodable (reason : String)

namespace Failure

/-- The protocols that an unknown name might have meant. -/
def knownProtocols : String := "omtp, vvm3"

/-- Where failures of the store's file are explained. -/
def explanations : String := "https:/" ++ "/sqlalche.me/e/21/"

/-- The wording of a failure of the store's file: the kind of the failure, the failure, and the
entry that explains it. -/
def storeText (kind text entry : String) : String :=
  s!"(sqlite3.{kind}) {text}\n(Background on this error at: {explanations}{entry})"

/-- The wording of a failure to read what nests too deep. -/
def tooDeepText : String := "maximum recursion depth exceeded"

/-- The wording of a failure. -/
def message : Failure → String
  | .fault f => f.message
  | .noNetwork account => s!"No network for {account}"
  | .networkTimedOut account limit =>
    s!"Network request for {account} timed out after {limit.text}s"
  | .beyondClock _ => "timestamp too large to convert to C _PyTime_t"
  | .networkRefused account reason => s!"Network request failed for {account}: {reason}"
  | .sessionClosed c => "Session closed before " ++ c.name
  | .languageRejected response => s!"Language change rejected: {response}"
  | .tutorialRejected response => s!"Closing new-user tutorial rejected: {response}"
  | .command e => e.message
  | .unhandledStatus status => "Unhandled provisioning status: " ++ Text.quoted status
  | .provisioningUnsupported protocol =>
    "Protocol " ++ Text.quoted protocol ++ " does not support provisioning"
  | .unknownProtocol name =>
    "Unknown protocol " ++ Text.quoted name ++ s!" (known: {knownProtocols})"
  | .invalidPinLength length =>
    "PIN length must be between 1 and 10, got " ++ String.ofList (Text.writeInt length)
  | .notAMember shown enumeration => s!"{shown} is not a valid {enumeration}"
  | .invalid issues => Issue.summary issues
  | .missingHookArgument name => "hook call must provide argument " ++ Text.quoted name
  | .misuse m => m.message
  | .noMember type name => s!"'{type}' object has no attribute '{name}'"
  | .unhashable type => s!"unhashable type: '{type}'"
  | .integerRange => "Python int too large to convert to SQLite INTEGER"
  | .nameTaken name => name
  | .noWorkers => "max_workers must be greater than 0"
  | .environmentSection field =>
    s!"error parsing value for field \"{field}\" from source \"EnvSettingsSource\""
  | .malformedConfig path reason => s!"Invalid TOML in {path}: {reason}"
  | .tooManyDigits count => Text.tooManyDigits count
  | .configTooDeep => tooDeepText
  | .sectionTooDeep k => s!"{tooDeepText} while decoding a JSON {k.name} from a unicode string"
  | .badPath f shown =>
    s!"[Errno {f.number}] {f.text}: {Text.quoted shown}"
  | .nullInPath => "embedded null byte"
  | .unreachableStore => storeText "OperationalError" "unable to open database file" "e3q8"
  | .notAStore => storeText "DatabaseError" "file is not a database" "4xp6"
  | .reportTooDeep =>
    "Error serializing to JSON: ValueError: Maximum serialization depth exceeded"
  | .undecodable reason => reason

/-- Whether there is no network. -/
def isNetworkUnavailable : Failure → Bool
  | .fault f => f.kind = .networkUnavailable
  | .noNetwork _ | .networkTimedOut _ _ | .networkRefused _ _ => true
  | _ => false

/-- Whether a session command failed. -/
def isSession : Failure → Bool
  | .fault f => f.kind = .session
  | .sessionClosed _ | .languageRejected _ | .tutorialRejected _ => true
  | _ => false

/-- Whether input or output failed. -/
def isIo : Failure → Bool
  | .fault f => f.kind.isIo
  | _ => false

end Failure

end Voicemail
