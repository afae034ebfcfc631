import Voicemail.Proofs.Session.Reply

/-!
# Dialogues

A platform answers a call by the calls before it. So the calls that a client made, and those it made
earlier, determine every answer that it got: `Platform.dialogue` is the calls with their answers,
and `Platform.sent` is the part of it that the carrier's server sees, the commands. What a run did
is said about its dialogue, without a word about how it came to it.
-/

namespace Voicemail

open Client

/-- A call and what came of it. -/
abbrev Exchange : Type := (call : Call) × Except Fault call.Answer

/-- A command as it was sent, and what came of it. -/
structure Sent where
  text : String
  answer : Except Fault String

/-- Whether an answer is a response that accepts. -/
def accepts : Except Fault String → Bool
  | .ok response => isAccepted response
  | .error _ => false

namespace Exchange

/-- The command of an exchange, if it is one. -/
def sent? : Exchange → Option Sent
  | ⟨.execute text, answer⟩ => some ⟨text, answer⟩
  | _ => none

/-- Whether an exchange gives up a session or a network, and fails. -/
def failsRelease : Exchange → Bool
  | ⟨.closeSession, .error _⟩ | ⟨.releaseNetwork _, .error _⟩ => true
  | _ => false

/-- Whether an exchange asks for the status, and no failure comes of it but one of input or
output. -/
def confirms : Exchange → Bool
  | ⟨.requestStatus, .ok _⟩ => true
  | ⟨.requestStatus, .error f⟩ => f.kind.isIo
  | _ => false

end Exchange

namespace Platform

variable (p : Platform)

/-- Calls made after others, each with its answer. -/
def dialogue (past : List Call) : List Call → List Exchange
  | [] => []
  | call :: rest => ⟨call, p.respond past call⟩ :: dialogue (past ++ [call]) rest

/-- The commands among calls made after others. -/
def sent (past calls : List Call) : List Sent := (p.dialogue past calls).filterMap Exchange.sent?

variable {p : Platform} {past : List Call}

/-- The dialogue of more calls goes on where that of the first ones ended. -/
theorem dialogue_append (calls more : List Call) :
    p.dialogue past (calls ++ more) =
      p.dialogue past calls ++ p.dialogue (past ++ calls) more := by
  induction calls generalizing past with
  | nil => simp [dialogue]
  | cons call rest ih => simp [dialogue, ih]

/-- A dialogue is about the calls that were made. -/
theorem dialogue_map_fst (calls : List Call) :
    (p.dialogue past calls).map (·.1) = calls := by
  induction calls generalizing past with
  | nil => rfl
  | cons call rest ih => simp [dialogue, ih]

/-- The commands of more calls are sent after those of the first ones. -/
theorem sent_append (calls more : List Call) :
    p.sent past (calls ++ more) = p.sent past calls ++ p.sent (past ++ calls) more := by
  simp only [sent, dialogue_append, List.filterMap_append]

@[simp] theorem sent_execute (text : String) :
    p.sent past [.execute text] = [⟨text, p.respond past (.execute text)⟩] := rfl

/-- The calls of a dialogue are the ones that were made. -/
theorem fst_mem {calls : List Call} {x : Exchange} (h : x ∈ p.dialogue past calls) :
    x.1 ∈ calls := by
  have hmap : x.1 ∈ (p.dialogue past calls).map (·.1) := List.mem_map_of_mem h
  rwa [dialogue_map_fst] at hmap

/-- What is no command is not sent. -/
theorem sent_eq_nil {calls : List Call} (h : ∀ text, .execute text ∉ calls) :
    p.sent past calls = [] := by
  refine List.filterMap_eq_nil_iff.2 fun ⟨call, answer⟩ hx => ?_
  cases call with
  | execute text => exact absurd (fst_mem hx) (h text)
  | _ => rfl

/-- Commands give nothing up. -/
theorem failsRelease_execute (texts : List String) :
    (p.dialogue past (texts.map .execute)).any Exchange.failsRelease = false := by
  induction texts generalizing past with
  | nil => rfl
  | cons text rest ih => exact ih

/-- Where the status is not asked for, nothing confirms. -/
theorem confirms_eq_false {calls : List Call} (h : .requestStatus ∉ calls) (past : List Call) :
    (p.dialogue past calls).any Exchange.confirms = false := by
  rw [List.any_eq_false]
  rintro ⟨call, answer⟩ hx
  cases call with
  | requestStatus => exact absurd (fst_mem hx) h
  | _ => exact Bool.false_ne_true

end Platform

/-! ## Replies as they were sent -/

namespace Client

variable {p : Platform} {table : CommandTable} {command : Command}
  {params : List (String × Json)} {history calls : List Call} {r : Except Failure String}

/-- What a reply is by what was sent: nothing where the command has no text, else the command with
its answer. -/
theorem Reply.sent_cases (h : Reply p table command params history calls r) :
    p.sent history calls = [] ∧ (∃ e, r = .error e) ∨
      ∃ text, table.render command params = .ok text ∧
        p.sent history calls = [⟨text, p.respond history (.execute text)⟩] ∧
        r = (p.respond history (.execute text)).mapError .fault := by
  cases h with
  | unwritten => exact .inl ⟨rfl, _, rfl⟩
  | faulted written answer => exact .inr ⟨_, written, rfl, by rw [answer]; rfl⟩
  | answered written answer => exact .inr ⟨_, written, rfl, by rw [answer]; rfl⟩

/-- The response of a reply is the answer to its command. -/
theorem Reply.sent_of_ok {response : String}
    (h : Reply p table command params history calls (.ok response)) :
    ∃ text, table.render command params = .ok text ∧
      p.sent history calls = [⟨text, .ok response⟩] := by
  obtain ⟨text, written, rfl, answer⟩ := h.answer_of_ok
  exact ⟨text, written, by rw [Platform.sent_execute, answer]⟩

/-- Where there is no response, the command was not sent or its answer is a fault. -/
theorem Reply.sent_of_error {e : Failure}
    (h : Reply p table command params history calls (.error e)) :
    p.sent history calls = [] ∨ ∃ text f, p.sent history calls = [⟨text, .error f⟩] := by
  cases h with
  | unwritten => exact .inl rfl
  | faulted written answer => exact .inr ⟨_, _, by rw [Platform.sent_execute, answer]⟩

/-- The server has to accept an answer for its verdict. -/
theorem verdict_mapError (rejected : String → Failure) (answer : Except Fault String) :
    verdict rejected (answer.mapError .fault) = .ok () ↔ accepts answer := by
  cases answer with
  | error f => exact ⟨nofun, nofun⟩
  | ok response =>
    show verdict rejected (.ok response) = .ok () ↔ accepts (.ok response) = true
    by_cases ha : isAccepted response = true <;> simp [verdict, accepts, ha]

end Client

end Voicemail
