import Voicemail.Json.Writer
import Voicemail.Text.Numeral

/-!
# The event journal

One row for each dispatched event, written before any plugin sees the event. A row is pending until
its first delivery. A delivery that succeeds completes the row; one that fails is counted, and the
row is failed until the count reaches the greatest number of retries, and a dead letter from then
on. Rows are never removed, and what an event was never changes.
-/

namespace Voicemail

/-- How far the delivery of an event has come. -/
inductive RowStatus where
  | pending
  | completed
  | failed
  | deadLetter
  deriving DecidableEq, Repr

namespace RowStatus

/-- The name of a status. -/
def name : RowStatus → String
  | .pending => "pending"
  | .completed => "completed"
  | .failed => "failed"
  | .deadLetter => "dead_letter"

/-- Whether a row is delivered again. -/
def isReplayable : RowStatus → Bool
  | .pending | .failed => true
  | .completed | .deadLetter => false

end RowStatus

/-- A row of the journal. -/
structure Row where
  id : Nat
  hook : String
  /-- The event's arguments as JSON text. -/
  payload : String
  account : Option String
  status : RowStatus
  /-- The message of the last failed delivery. -/
  error : Option String
  /-- How many deliveries failed. -/
  retries : Nat
  /-- Whether a time of completion is stored. -/
  finished : Bool
  deriving DecidableEq, Repr

namespace Row

/-- A row after a delivery that succeeded. -/
def complete (r : Row) : Row := { r with status := .completed, finished := true }

/-- Whether one more failure exhausts a row. -/
def isExhausted (maxRetries : Int) (r : Row) : Bool := maxRetries ≤ Int.ofNat r.retries + 1

/-- A row after a delivery that failed. -/
def fail (error : String) (maxRetries : Int) (r : Row) : Row :=
  { r with
    retries := r.retries + 1
    error := some error
    status := if r.isExhausted maxRetries then .deadLetter else .failed
    finished := r.isExhausted maxRetries }

end Row

/-- The journal: its rows in the order of their ids. -/
structure Journal where
  rows : List Row
  deriving DecidableEq, Repr, Inhabited

namespace Journal

/-- A journal without rows. -/
def empty : Journal := ⟨[]⟩

/-- The id of the next row. -/
def nextId (j : Journal) : Nat := j.rows.length + 1

/-- Adds a pending row. -/
def append (j : Journal) (hook payload : String) (account : Option String) : Journal :=
  ⟨j.rows ++ [⟨j.nextId, hook, payload, account, .pending, none, 0, false⟩]⟩

/-- Changes the row with an id. -/
def update (j : Journal) (id : Nat) (f : Row → Row) : Journal :=
  ⟨j.rows.map fun r => if r.id = id then f r else r⟩

/-- The row with an id. -/
def row? (j : Journal) (id : Nat) : Option Row := j.rows.find? (·.id = id)

/-- The rows that are delivered again, oldest first. -/
def replayable (j : Journal) : List Row := j.rows.filter (·.status.isReplayable)

/-- The status of the row with an id. -/
def statusOf (j : Journal) (id : Nat) : RowStatus := ((j.row? id).map (·.status)).getD .pending

/-- Whether a number fits into a column of the journal. -/
def fits (n : Int) : Bool := Word.fits n

end Journal

end Voicemail
