import Voicemail.Journal
import Voicemail.Json.Reader
import Voicemail.Preferences

/-!
# The store

What a client keeps from one run to the next: the preferences of all accounts and the journal of
events. A store is kept as a JSON document, and a document that is no store is refused.
-/

namespace Voicemail

/-- What a client keeps. -/
structure Store where
  preferences : Preferences
  journal : Journal
  deriving DecidableEq, Repr, Inhabited

namespace RowStatus

/-- Every status. -/
def all : List RowStatus := [.pending, .completed, .failed, .deadLetter]

/-- The status with a name. -/
def ofName? (s : String) : Option RowStatus := all.find? (·.name = s)

end RowStatus

namespace Store

/-- A store of a client that has done nothing yet. -/
def empty : Store := ⟨.empty, .empty⟩

/-- An entry of the preferences as a JSON value. -/
def entryJson : (String × String) × Option String → Json
  | ((account, key), value) => .arr [.str account, .str key, .ofString? value]

/-- A row of the journal as a JSON value. -/
def rowJson (r : Row) : Json :=
  .arr [.int r.id, .str r.hook, .str r.payload, .ofString? r.account, .str r.status.name,
    .ofString? r.error, .int r.retries, .bool r.finished]

/-- A store as a JSON value. -/
def toJson (s : Store) : Json :=
  .obj [("preferences", .arr (s.preferences.entries.map entryJson)),
    ("events", .arr (s.journal.rows.map rowJson))]

/-- A text or null. -/
def text? : Json → Option (Option String)
  | .str s => some (some s)
  | .null => some none
  | _ => none

/-- A natural number. -/
def nat? : Json → Option Nat
  | .int (.ofNat n) => some n
  | _ => none

/-- An entry of the preferences out of a JSON value. -/
def entry? : Json → Option ((String × String) × Option String)
  | .arr [.str account, .str key, value] => (text? value).map ((account, key), ·)
  | _ => none

/-- A row of the journal out of a JSON value. -/
def row? : Json → Option Row
  | .arr [id, .str hook, .str payload, account, .str status, error, retries, .bool finished] => do
    return {
      id := ← nat? id, hook, payload, account := ← text? account
      status := ← RowStatus.ofName? status, error := ← text? error, retries := ← nat? retries
      finished }
  | _ => none

/-- A store out of a JSON value. -/
def ofJson? : Json → Option Store
  | .obj [("preferences", .arr entries), ("events", .arr rows)] => do
    return ⟨⟨← entries.mapM entry?⟩, ⟨← rows.mapM row?⟩⟩
  | _ => none

/-- The document of a store. -/
def document (s : Store) : String := s.toJson.text

/-- The store of a document. -/
def read? (s : String) : Option Store := (Json.read? s).bind ofJson?

end Store

end Voicemail
