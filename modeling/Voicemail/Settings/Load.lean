import Voicemail.Settings.Environment
import Voicemail.Settings.Reading
import Voicemail.Text.Utf8
import Voicemail.Toml.Reader

/-!
# Loading settings

The configuration document is the one that is named, or the one that the environment names, or the
nearest `vvmprov.toml` above the directory where the search starts. Arguments win over the
environment, the environment over the document, and the document over the defaults.
-/

namespace Voicemail

/-- What the client finds around it. -/
structure Surroundings where
  /-- The working directory. -/
  directory : Path
  environment : Environment
  /-- The bytes of the regular file at a path, if there is one. -/
  look : Path → Except PathFault (Option (List UInt8))

namespace Surroundings

/-- The bytes of the regular file at a path, if there is one. -/
def read? (s : Surroundings) (p : Path) : Except Failure (Option (List UInt8)) :=
  (s.look p).mapError fun f => .badPath f p.text

/-- A path, if there is a regular file. -/
def ifFile (s : Surroundings) (p : Path) : Except Failure (Option Path) := do
  return (← s.read? p).map fun _ => p

/-- The name of a configuration document. -/
def configName : String := "vvmprov.toml"

/-- The variable that names the configuration document. -/
def configVariable : String := "VVMPROV_CONFIG"

/-- The nearest document in a directory or above it; the names that lead from the root to the
directory stand innermost first. -/
def nearest (s : Surroundings) : List String → Except Failure (Option Path)
  | [] => here []
  | n :: outer => do
    match ← here (n :: outer) with
    | some p => return some p
    | none => nearest s outer
where
  /-- The document in one directory. -/
  here (inner : List String) : Except Failure (Option Path) :=
    s.ifFile (Path.join ⟨.root, inner.reverse⟩ configName)

/-- The value of a variable that is set and not empty. -/
def lookup? (s : Surroundings) (name : String) : Option String :=
  ((Assoc.ofPairs s.environment).lookup name).filter fun v => !v.isEmpty

/-- The configuration document that is found from a directory, which is the working directory if
none is given. A document that the environment names is the only one looked for. The search is along
the resolved path of the directory, which has the usual root whichever root the path had. -/
def findConfig (s : Surroundings) (start : Option Path) : Except Failure (Option Path) :=
  match s.lookup? configVariable with
  | some named => s.ifFile (.ofString named)
  | none =>
    let p := s.directory.under (start.getD s.directory)
    if p.hasNull then .error .nullInPath
    else s.nearest p.resolve.names.reverse

/-- The configuration document: the one that is named, if it is there, or else the one that is
found. -/
def config (s : Surroundings) (named : Option String) (root : Option Path) :
    Except Failure (Option Path) :=
  match named.filter fun n => !n.isEmpty with
  | some n => s.ifFile (.ofString n)
  | none => s.findConfig root

end Surroundings

/-- A text whose lines all end in a single line break. -/
def plainLines : List Char → List Char
  | '\r' :: '\n' :: s => '\n' :: plainLines s
  | '\r' :: s => '\n' :: plainLines s
  | c :: s => c :: plainLines s
  | [] => []

/-- The options of a configuration document. -/
def readConfig (p : Path) (bytes : List UInt8) : Except Failure (List (String × Setting)) :=
  match Text.Utf8.decode bytes with
  | .error f => .error (.undecodable f.message)
  | .ok text =>
    let text := plainLines text
    match Toml.read text with
    | .error ⟨.tooManyDigits count, _⟩ => .error (.tooManyDigits count)
    | .error ⟨.tooDeep, _⟩ => .error .configTooDeep
    | .error f => .error (.malformedConfig p.text (f.message text))
    | .ok t => .ok (Setting.ofTable t)

namespace Settings

/-- The arguments of the calls that load settings and of those that build them which have a value
before an argument is named, each with what it is an argument of. -/
def takenNames : List (String × String) :=
  [("cls", "VvmSettings.from_cli"), ("__pydantic_self__", "BaseSettings.__init__")]

/-- What is wrong with the names of arguments, if anything is. -/
def misuse? (names : List String) : Option Misuse :=
  (takenNames.find? fun (n, _) => names.contains n).map fun (n, callee) =>
    .repeatedArgument callee n

/-- Settings out of arguments and what the client finds around it. The root is the one that is
given, or the directory of the configuration document, or the working directory. -/
def load (s : Surroundings) (configName : Option String) (root : Option Path)
    (arguments : List (String × Setting)) : Except Failure Settings := do
  if let some m := misuse? (Assoc.keys arguments) then throw (.misuse m)
  let config ← s.config configName root
  let root := root.getD ((config.map (·.parent)).getD s.directory)
  let document ← match config with
    | none => .ok []
    | some p => do readConfig p ((← s.read? p).getD [])
  let environment ← s.environment.settings switchNames sectionNames
  let all := Setting.merge (Setting.merge document environment) arguments
  (read root config all).mapError .invalid

end Settings

end Voicemail
