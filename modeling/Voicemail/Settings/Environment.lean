import Voicemail.Failure
import Voicemail.Json.Reader
import Voicemail.Settings.Source

/-!
# Settings from the environment

The variable of an option is its name after `VVMPROV_`, in letters of either case; two underscores
lead from a section to an option of it. The variable of a section holds a JSON object with options,
over which the variables of the single options are put. The value of an option stays a text, and is
read like any other.
-/

namespace Voicemail

/-- The variables of an environment, in the order in which they were set. -/
abbrev Environment := List (String × String)

namespace Environment

/-- What the names of all variables begin with, in small letters. -/
def mark : String := "vvmprov_"

/-- A small letter for a letter of a name. The sign for the kelvin counts as the letter that it
looks like. -/
def foldLetter (c : Char) : Char := if c = '\u212a' then 'k' else c.toLower

/-- A name in small letters. -/
def foldName (name : String) : String := String.ofList (name.toList.map foldLetter)

/-- The variables under their names in small letters; the one set last wins. -/
def folded (env : Environment) : Environment :=
  Assoc.ofPairs (env.map fun (name, v) => (foldName name, v))

/-- The parts of a name between pairs of underscores. -/
def nameParts : List Char → List (List Char)
  | [] => [[]]
  | '_' :: '_' :: rest => [] :: nameParts rest
  | c :: rest =>
    match nameParts rest with
    | [] => [[c]]
    | p :: ps => (c :: p) :: ps

/-- Sets the option that a way leads to. An option on the way bars it. -/
def place : List String → String → List (String × Setting) → List (String × Setting)
  | [], _, t => t
  | [k], v, t => Assoc.set k (.value (.str v)) t
  | k :: ks, v, t =>
    match t.lookup k with
    | none => Assoc.set k (.table (place ks v [])) t
    | some (.table sub) => Assoc.set k (.table (place ks v sub)) t
    | some _ => t

/-- The options of a section that have variables of their own. -/
def sectionOptions (env : Environment) (name : String) : List (String × Setting) :=
  let start := (mark ++ name ++ "__").toList
  env.folded.foldl (fun t (variableName, v) =>
    let letters := variableName.toList
    if start.isPrefixOf letters then
      place ((nameParts (letters.drop start.length)).map String.ofList) v t
    else t) []

/-- The name of an option that a member of a section's variable means. -/
def memberName (options : List String) (name : String) : String :=
  (options.find? fun o => foldName o = foldName name).getD name

/-- What the environment says about a section with some options, if it mentions it. -/
def sectionSetting (env : Environment) (name : String) (options : List String) :
    Except Failure (Option Setting) :=
  let own := env.sectionOptions name
  let named (t : List (String × Setting)) : Setting :=
    .table (Assoc.ofPairs (t.map fun (k, v) => (memberName options k, v)))
  match env.folded.lookup (mark ++ name) with
  | none => .ok (if own.isEmpty then none else some (named own))
  | some text =>
    match Json.tooDeep? text.toList, Json.read? text with
    | some k, _ => .error (.sectionTooDeep k)
    | none, none => .error (.environmentSection name)
    | none, some .null => .ok none
    | none, some (.obj ms) => .ok (some (named (Setting.merge (Setting.ofMembers ms) own)))
    | none, some v => .ok (some (.ofJson v))

/-- What the environment says about a switch, if it mentions it. -/
def switchSetting (env : Environment) (name : String) : Option Setting :=
  (env.folded.lookup (mark ++ name)).map fun v => .value (.str v)

/-- What the environment says about switches and sections. -/
def settings (env : Environment) (switches : List String) (sections : List (String × List String)) :
    Except Failure (List (String × Setting)) := do
  let own := switches.filterMap fun name => (env.switchSetting name).map (name, ·)
  let found ← sections.mapM fun (name, options) => do
    return (← env.sectionSetting name options).map (name, ·)
  return own ++ found.filterMap id

end Environment

end Voicemail
