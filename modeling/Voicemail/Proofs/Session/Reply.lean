import Voicemail.Proofs.Client.After
import Voicemail.Session

/-!
# Replies to commands

A command of an open session is written from its template and sent, and the server responds, or one
of these fails (`Client.Reply`). The three commands of the setup differ only in what they make of
the reply: the language and the tutorial need a response that accepts (`verdict`), a change of the
PIN takes every response (`pinVerdict`).
-/

namespace Voicemail.Client

variable {p : Platform} {table : CommandTable} {c : Client}

/-- The calls that a command makes after others, and the response to it or what there is instead. -/
inductive Reply (p : Platform) (table : CommandTable) (command : Command)
    (params : List (String × Json)) (history : List Call) :
    List Call → Except Failure String → Prop
  /-- The command has no text. -/
  | unwritten {e : CommandError} (text : table.render command params = .error e) :
      Reply p table command params history [] (.error (.command e))
  /-- The server cannot be asked. -/
  | faulted {text : String} {f : Fault} (written : table.render command params = .ok text)
      (answer : p.respond history (.execute text) = .error f) :
      Reply p table command params history [.execute text] (.error (.fault f))
  /-- The server responds. -/
  | answered {text response : String} (written : table.render command params = .ok text)
      (answer : p.respond history (.execute text) = .ok response) :
      Reply p table command params history [.execute text] (.ok response)

/-- What a command that the server has to accept makes of a reply. -/
def verdict (rejected : String → Failure) : Except Failure String → Except Failure Unit
  | .error e => .error e
  | .ok response => if isAccepted response then .ok () else .error (rejected (trimmed response))

/-- What a change of the PIN makes of a response. -/
def pinVerdict (response : String) : PinChange :=
  if isAccepted response then .success else .failure

/-- What a verdict accepts is a response that accepts. -/
theorem verdict_ok {rejected : String → Failure} {r : Except Failure String}
    (h : verdict rejected r = .ok ()) : ∃ response, r = .ok response ∧ isAccepted response := by
  cases r with
  | error => cases h
  | ok response =>
    by_cases ha : isAccepted response = true
    · exact ⟨response, rfl, ha⟩
    · simp [verdict, ha] at h

namespace Reply

variable {command : Command} {params : List (String × Json)} {history calls : List Call}
  {r : Except Failure String}

/-- A reply takes no call but the command. -/
theorem calls_execute (h : Reply p table command params history calls r) :
    ∃ texts : List String, calls = texts.map .execute := by
  cases h with
  | unwritten => exact ⟨[], rfl⟩
  | @faulted text => exact ⟨[text], rfl⟩
  | @answered text => exact ⟨[text], rfl⟩

/-- What a server responds to a command that has a text is the reply. -/
theorem eq_of_answer {text response : String}
    (h : Reply p table command params history calls r)
    (written : table.render command params = .ok text)
    (answer : p.respond history (.execute text) = .ok response) :
    calls = [.execute text] ∧ r = .ok response := by
  cases h with
  | unwritten text' =>
    rw [written] at text'
    cases text'
  | faulted written' answer' =>
    obtain rfl := Except.ok.inj (written.symm.trans written')
    rw [answer] at answer'
    cases answer'
  | answered written' answer' =>
    obtain rfl := Except.ok.inj (written.symm.trans written')
    cases answer'.symm.trans answer
    exact ⟨rfl, rfl⟩

/-- A response is what the server gives to the text of the command. -/
theorem answer_of_ok {response : String}
    (h : Reply p table command params history calls (.ok response)) :
    ∃ text, table.render command params = .ok text ∧ calls = [.execute text] ∧
      p.respond history (.execute text) = .ok response := by
  cases h with
  | answered written answer => exact ⟨_, written, rfl, answer⟩

end Reply

/-- Executing a command in an open session gets a reply. -/
theorem execute_reply (h : c.session = some table) (command : Command)
    (params : List (String × Json)) :
    ∃ calls r c', execute p command params c = (r, c') ∧
      Reply p table command params c.transcript.calls calls r ∧ After c calls [] c' := by
  simp only [execute, bind_ok (get_apply c), h]
  cases written : table.render command params with
  | error e => exact ⟨[], _, c, rfl, .unwritten written, .refl c⟩
  | ok text =>
    obtain ⟨c₁, h₁, hafter₁⟩ := After.perform p (.execute text) c
    cases answer : p.respond c.transcript.calls (.execute text) with
    | error f =>
      rw [answer] at h₁
      exact ⟨_, _, c₁, h₁, .faulted written answer, hafter₁⟩
    | ok response =>
      rw [answer] at h₁
      exact ⟨_, _, c₁, h₁, .answered written answer, hafter₁⟩

/-- A command whose reply is judged gives the verdict. -/
theorem judged_apply {m : ClientM String} {rejected : String → Failure}
    {r : Except Failure String} {c' : Client} (h : m c = (r, c')) :
    (do
      let response ← m
      unless isAccepted response do
        throw (rejected (trimmed response)) : ClientM Unit) c = (verdict rejected r, c') := by
  cases r with
  | error e => exact bind_error h
  | ok response =>
    rw [bind_ok h]
    by_cases ha : isAccepted response = true
    · simp only [verdict, ha, if_true]
      rfl
    · simp only [verdict, ha]
      rfl

/-- Setting the language gives the verdict on its reply. -/
theorem setLanguage_reply (h : c.session = some table) (code : String) :
    ∃ calls r c', setLanguage p code c = (verdict .languageRejected r, c') ∧
      Reply p table .changeLanguage [("language", .str code)] c.transcript.calls calls r ∧
      After c calls [] c' := by
  obtain ⟨calls, r, c', hrun, hreply, hafter⟩ :=
    execute_reply (p := p) h .changeLanguage [("language", .str code)]
  exact ⟨calls, r, c', judged_apply hrun, hreply, hafter⟩

/-- Closing the tutorial gives the verdict on its reply. -/
theorem closeTutorial_reply (h : c.session = some table) :
    ∃ calls r c', closeTutorial p c = (verdict .tutorialRejected r, c') ∧
      Reply p table .closeNewUserTutorial [] c.transcript.calls calls r ∧
      After c calls [] c' := by
  obtain ⟨calls, r, c', hrun, hreply, hafter⟩ :=
    execute_reply (p := p) h .closeNewUserTutorial []
  exact ⟨calls, r, c', judged_apply hrun, hreply, hafter⟩

/-- A change of the PIN succeeds or fails as its response says. -/
theorem changePin_reply (h : c.session = some table) (new old : String) :
    ∃ calls r c', changePin p new old c = (r.map pinVerdict, c') ∧
      Reply p table .changeTuiPassword [("new_pin", .str new), ("old_pin", .str old)]
        c.transcript.calls calls r ∧
      After c calls [] c' := by
  obtain ⟨calls, r, c₁, hrun, hreply, hafter⟩ :=
    execute_reply (p := p) h .changeTuiPassword [("new_pin", .str new), ("old_pin", .str old)]
  cases r with
  | error e => exact ⟨calls, _, c₁, bind_error hrun, hreply, hafter⟩
  | ok response =>
    by_cases ha : isAccepted response = true
    · refine ⟨calls, _, c₁, ?_, hreply, hafter⟩
      rw [changePin, bind_ok hrun]
      simp only [ha, if_true, Except.map, pinVerdict]
      rfl
    · obtain ⟨c₂, hsay, hafter₂⟩ := After.say .session (by decide) .debug
        s!"PIN change rejected: {trimmed response}" c₁
      refine ⟨calls, _, c₂, ?_, hreply, hafter.quietly hafter₂⟩
      rw [changePin, bind_ok hrun]
      simp only [ha, Except.map, pinVerdict]
      exact bind_ok hsay

end Voicemail.Client
